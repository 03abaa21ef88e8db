import HostedLedger.Proofs.Foreign.Answer
import HostedLedger.Proofs.Foreign.Lifecycle

/-!
# The order of refusals

Several things may be wrong with a call at the same time: the bridge is not initialised, the handle
is unknown or of the other kind, arguments are absent or no texts, and the instance itself refuses.
The reason that is reported is the first of them in this order, and among the arguments it is the
first one that cannot be read. The instance is asked only when nothing else is wrong.

## Main results

* `ForeignArgument.findSome?_refusal?_of_first`: which one of several arguments is refused
* `Bridge.Sound.status_of_untargeted`: the handle decides before the arguments
* `Bridge.refusals_in_order`: the order of refusals for every call with a handle
-/

namespace HostedLedger

/-- Of several arguments the first one that cannot be read is refused. -/
theorem ForeignArgument.findSome?_refusal?_of_first {arguments before after : List ForeignArgument}
    {bad : ForeignArgument} (eq : arguments = before ++ bad :: after)
    (readable : ∀ g ∈ before, g.IsReadable) (unreadable : ¬bad.IsReadable) :
    ∃ e, bad.refusal? = some e ∧ arguments.findSome? refusal? = some e := by
  have hbefore : before.findSome? refusal? = none := by
    rw [List.findSome?_eq_none_iff]
    exact fun g hg => refusal?_eq_none_iff.mpr (readable g hg)
  obtain ⟨e, he⟩ : ∃ e, bad.refusal? = some e := by
    rw [← Option.ne_none_iff_exists']
    exact fun hnone => unreadable (refusal?_eq_none_iff.mp hnone)
  refine ⟨e, he, ?_⟩
  rw [eq, List.findSome?_append, hbefore, Option.none_or, List.findSome?_cons, he]

namespace Bridge

theorem status_of_error {parse : Config.Reading} {b : Bridge} {c : Call} {e : Error}
    (h : (b.perform parse c).2 = .error e) : (b.call parse c).2.report.status = .failure e.kind :=
  congrArg (fun result => (Reply.of c.fallback result).report.status) h

namespace Sound

variable {parse : Config.Reading} {b : Bridge} {h : Handle} {c : Call} {x : Instance}
  (sound : b.Sound) (takes : c.handle? = some h)
include sound takes

/-- Without an instance of its kind a call is refused for its handle. -/
theorem status_of_untargeted (set : b.isInitialised = true) (untargeted : ∀ x, ¬b.Targets c h x) :
    (b.call parse c).2.report.status = .failure .invalidParameter := by
  obtain ⟨config, hconfig⟩ := Option.isSome_iff_exists.mp set
  cases hfound : b.table.get? h with
  | none =>
    obtain ⟨react, hserves⟩ := exists_serves takes
    exact status_of_error (congrArg Prod.snd (hserves.perform_of_unknown hconfig hfound))
  | some x =>
    obtain ⟨kind, hkind⟩ := Call.exists_kind? takes
    have hne : x.kind ≠ kind := by
      rintro rfl
      exact untargeted x ⟨hfound, hkind⟩
    exact status_of_error (sound.wrongKind hfound takes hkind hne)

/-- On an instance of its kind a call is refused for the first argument that cannot be read. -/
theorem refused_of_first (targets : b.Targets c h x) {before after : List ForeignArgument}
    {bad : ForeignArgument} (arguments_eq : c.arguments = before ++ bad :: after)
    (readable : ∀ g ∈ before, g.IsReadable) (unreadable : ¬bad.IsReadable) :
    ∃ e, (b.perform parse c).2 = .error e ∧ e.argument? = some bad.name ∧
      (bad.IsNull → e.kind = .nullPointer) ∧ (¬bad.IsNull → e.kind = .invalidUtf8) := by
  obtain ⟨e, hrefused, hfirst⟩ :=
    ForeignArgument.findSome?_refusal?_of_first arguments_eq readable unreadable
  exact ⟨e, (sound.outcome targets takes).eq_error hfirst,
    ForeignArgument.kind_of_refusal? hrefused⟩

end Sound

/-- **Refusals come in one order.** Take any run of calls on a fresh bridge and any call with a
handle, however documents are read. Without a configuration the call is refused as the wrong state,
and otherwise without an instance of its kind as an invalid parameter, both whatever its other
arguments are. Otherwise the first argument that cannot be read is refused by its name, as absent or
as no UTF-8; and only if there is none, what is reported is what the instance answers. -/
theorem refusals_in_order (parse : Config.Reading) (calls : List Call) {c : Call} {h : Handle}
    (takes : c.handle? = some h) :
    let b := Machine.after (call parse) fresh calls
    let reply := (b.call parse c).2
    (b.isInitialised = false → reply.report.status = .failure .state) ∧
    (b.isInitialised = true → (∀ x, ¬b.Targets c h x) →
      reply.report.status = .failure .invalidParameter) ∧
    ∀ x, b.Targets c h x →
      b.isInitialised = true ∧
      (∀ before bad after, c.arguments = before ++ bad :: after →
        (∀ g ∈ before, g.IsReadable) → ¬bad.IsReadable →
        ∃ e, reply = Reply.of c.fallback (.error e) ∧ e.argument? = some bad.name ∧
          (bad.IsNull → e.kind = .nullPointer) ∧ (¬bad.IsNull → e.kind = .invalidUtf8)) ∧
      ((∀ g ∈ c.arguments, g.IsReadable) →
        ∃ result, x.Answers c result ∧ reply = Reply.of c.fallback result) := by
  intro b reply
  have sound : b.Sound := sound_after parse calls
  refine ⟨fun hunset => ?_, sound.status_of_untargeted takes, fun x targets => ⟨?_, ?_, ?_⟩⟩
  · obtain ⟨react, hserves⟩ := exists_serves takes
    rw [isInitialised_eq_false_iff] at hunset
    exact status_of_error (congrArg Prod.snd (hserves.perform_of_unset hunset))
  · exact Option.isSome_iff_exists.mpr (sound.exists_config targets.found)
  · intro before bad after harguments hreadable hunreadable
    obtain ⟨e, herror, hnamed⟩ :=
      sound.refused_of_first takes targets harguments hreadable hunreadable
    exact ⟨e, congrArg (Reply.of c.fallback) herror, hnamed⟩
  · intro hreadable
    exact ⟨_, (sound.outcome targets takes).answers hreadable, rfl⟩

/-- A transaction without a recipient, whose sender is no text and whose signature is absent, is
handed over for a ledger, for a rotation, for a ledger that is gone, and before the start. -/
theorem refusals_in_order_allAtOnce :
    let b := Machine.after (call Config.parse) fresh
      [.initialise .unset, .blockchainNew, .consensusNew, .blockchainNew, .blockchainDestroy 3]
    let f : ForeignTransaction := ⟨some [255], none, 0, 0, 0, 0, .null 4⟩
    let status (b : Bridge) (h : Handle) :=
      (b.call Config.parse (.addTransaction h f)).2.report.status
    status b 1 = .failure .invalidUtf8 ∧ status b 2 = .failure .invalidParameter ∧
      status b 3 = .failure .invalidParameter ∧ status fresh 1 = .failure .state := by
  intro b f status
  have inOrder (h : Handle) := refusals_in_order Config.parse
    [.initialise .unset, .blockchainNew, .consensusNew, .blockchainNew, .blockchainDestroy 3]
    (c := .addTransaction h f) (h := h) rfl
  have hset : b.isInitialised = true := by decide +kernel
  have huntargeted {h : Handle} (ne : (b.table.get? h).map Instance.kind ≠ some .blockchain) :
      ∀ x, ¬b.Targets (.addTransaction h f) h x := by
    rintro x ⟨hfound, hkind⟩
    rw [hfound] at ne
    exact ne hkind.symm
  refine ⟨?_, ?_, ?_, ?_⟩
  · have hkind : (b.table.get? 1).map Instance.kind = some .blockchain := by decide +kernel
    obtain ⟨x, hfound, hx⟩ := Option.map_eq_some_iff.mp hkind
    have hunreadable : ¬(ForeignArgument.text "from" f.sender).IsReadable := by
      rw [← ForeignArgument.refusal?_eq_none_iff]
      decide +kernel
    obtain ⟨-, -, htargets⟩ := inOrder 1
    obtain ⟨-, hfirst, -⟩ := htargets x ⟨hfound, congrArg some hx.symm⟩
    obtain ⟨e, hreply, -, -, hkind⟩ :=
      hfirst [] _ _ rfl (fun g hg => (by cases hg)) hunreadable
    have hstatus : status b 1 = .failure e.kind := congrArg (·.report.status) hreply
    rw [hstatus, hkind fun hnull => (by cases hnull)]
  · exact (inOrder 2).2.1 hset (huntargeted (by decide +kernel))
  · exact (inOrder 3).2.1 hset (huntargeted (by decide +kernel))
  · exact (refusals_in_order Config.parse [] (c := .addTransaction 1 f) rfl).1 rfl

end Bridge

end HostedLedger

import Faultline.Proofs.Entering

/-! # What passing does after entering

Once flows have entered, settling and closing them writes their own passages and nothing else: not
the scenarios, not the history, not the clock, and no passage of another flow. The same holds of a
flow that goes on after a delay.
-/

namespace Faultline.Proxy

open Exchange Injection

/-- Nothing has changed but what passages hold, and perhaps the time. -/
structure KeepsShared (p q : Proxy) : Prop where
  state : q.state = p.state
  started : q.started = p.started
  decoder : q.decoder = p.decoder
  audience : q.audience = p.audience
  suspended : q.suspended = p.suspended
  length : q.passages.length = p.passages.length

/-- Nothing has changed but what passages hold. -/
structure OnlyPassages (p q : Proxy) : Prop extends KeepsShared p q where
  clock : q.clock = p.clock

theorem KeepsShared.refl (p : Proxy) : KeepsShared p p := ⟨rfl, rfl, rfl, rfl, rfl, rfl⟩

theorem KeepsShared.trans {p q r : Proxy} (first : KeepsShared p q) (second : KeepsShared q r) :
    KeepsShared p r where
  state := second.state.trans first.state
  started := second.started.trans first.started
  decoder := second.decoder.trans first.decoder
  audience := second.audience.trans first.audience
  suspended := second.suspended.trans first.suspended
  length := second.length.trans first.length

theorem OnlyPassages.refl (p : Proxy) : OnlyPassages p p := ⟨.refl p, rfl⟩

theorem OnlyPassages.trans {p q r : Proxy} (first : OnlyPassages p q) (second : OnlyPassages q r) :
    OnlyPassages p r :=
  ⟨first.toKeepsShared.trans second.toKeepsShared, second.clock.trans first.clock⟩

/-- The passages outside `ids` are as before. -/
def KeepsOthers (ids : List Nat) (p q : Proxy) : Prop :=
  ∀ id, id ∉ ids → q.passages[id]? = p.passages[id]?

namespace KeepsOthers

variable {p q r : Proxy} {ids more : List Nat}

theorem trans (first : KeepsOthers ids p q) (second : KeepsOthers ids q r) :
    KeepsOthers ids p r := fun id outside => (second id outside).trans (first id outside)

theorem mono (h : KeepsOthers ids p q) (sub : ids ⊆ more) : KeepsOthers more p q :=
  fun id outside => h id fun inside => outside (sub inside)

end KeepsOthers

theorem modify_only (p : Proxy) (id : Nat) (f : Passage → Passage) :
    OnlyPassages p (p.modify id f) := ⟨⟨rfl, rfl, rfl, rfl, rfl, List.length_modify ..⟩, rfl⟩

theorem modify_others (p : Proxy) (id : Nat) (f : Passage → Passage) :
    KeepsOthers [id] p (p.modify id f) := by
  intro other outside
  have different : id ≠ other := fun same => outside (by simp [same])
  simp [modify, different]

theorem modify_self (p : Proxy) (id : Nat) (f : Passage → Passage) :
    (p.modify id f).passages[id]? = (p.passages[id]?).map f := by
  simp [modify]

/-! ## Endings tell of no injection -/

theorem hookFailed_events (message : String) (t : Thrown) (context : Members) :
    (hookFailed message t context).filterMap Notice.event? = [] := by
  unfold hookFailed
  split <;> rfl

theorem exchangeFailed_events (t : Thrown) (rawTarget : String) :
    (exchangeFailed t rawTarget).filterMap Notice.event? = [] := by
  unfold exchangeFailed
  split <;> rfl

theorem inspect_events (d : Option Call.Decoder) (body : Except Thrown ByteArray) :
    (inspect d body).2.filterMap Notice.event? = [] := by
  cases body with
  | error t => rfl
  | ok payload =>
      have quiet := Call.Recorder.decode_events d .response payload
      cases decoded : Call.Recorder.decode d .response payload with
      | mk result notices =>
          rw [decoded] at quiet
          cases result <;> simpa only [inspect, decoded] using quiet

theorem responseHook_events (d : Option Call.Decoder) (flow : Flow) :
    (responseHook d flow).filterMap Notice.event? = [] := by
  unfold responseHook
  split
  · rename_i response _ _
    have quiet := inspect_events d response.body
    split
    · rename_i seen
      rwa [seen] at quiet
    · rename_i seen
      rw [seen] at quiet
      rw [List.filterMap_append, quiet, hookFailed_events, List.nil_append]
  · rfl

theorem contact_events (d : Option Call.Decoder) (flow : Flow) (target path : String)
    (b : Backend) : (contact d flow target path b).events = [] := by
  unfold contact Done.events
  dsimp only
  split
  · split
    · exact responseHook_events d _
    · rfl
  · split <;> rfl

theorem conclude_events (d : Option Call.Decoder) (flow : Flow) (errand : Errand) :
    (conclude d flow errand).events = [] := by
  unfold conclude
  split
  · rfl
  · split
    · split
      · rfl
      · simp only [Done.events, exchangeFailed_events]
    · split
      · rfl
      · exact contact_events ..

theorem hookNotices_events (flow : Flow) (result : Except Failure Unit) :
    (hookNotices flow result).filterMap Notice.event? = [] := by
  cases result with
  | ok => rfl
  | error f => simp only [hookNotices, hookFailed_events]

theorem closePassage_events (d : Option Call.Decoder) (q : Passage) (s : Settled) :
    (closePassage d q s).events = [] := by
  unfold closePassage
  dsimp only
  split
  · rfl
  · exact hookNotices_events ..
  · rw [Done.events, List.filterMap_append, hookNotices_events, List.nil_append]
    exact conclude_events ..

/-! ## Settling and closing -/

section
variable (p : Proxy)

theorem settle_only (id : Nat) (claim : Claim) (a : Attempt) :
    OnlyPassages p (p.settle id claim a).now := modify_only p id _

theorem settle_others (id : Nat) (claim : Claim) (a : Attempt) :
    KeepsOthers [id] p (p.settle id claim a).now := modify_others p id _

theorem close_only (s : Settled) : OnlyPassages p (p.close s).now := by
  unfold close
  split
  · exact .refl p
  · exact modify_only p s.passage _

theorem close_others (s : Settled) : KeepsOthers [s.passage] p (p.close s).now := by
  unfold close
  split
  · exact fun _ _ => rfl
  · exact modify_others p s.passage _

@[simp] theorem close_events (s : Settled) : (p.close s).events = [] := by
  unfold close
  split
  · rfl
  · exact closePassage_events ..

theorem close_self (s : Settled) :
    (p.close s).now.passages[s.passage]? =
      (p.passages[s.passage]?).map fun q => (closePassage p.decoder q s).now := by
  unfold close
  split
  · rename_i missing
    simp only [Done.nothing_now, missing, Option.map_none]
  · rename_i q found
    simp only [modify_self, found, Option.map_some]

end

theorem settleAll_only (p : Proxy) (opened : List (Nat × Opened)) :
    OnlyPassages p (p.settleAll opened).now := by
  induction opened generalizing p with
  | nil => exact .refl p
  | cons o rest ih =>
      obtain ⟨id, state⟩ := o
      cases state with
      | ready claim a => exact (p.settle_only id claim a).trans (ih _)
      | settled result => exact ih p
      | waiting claim => exact ih p

theorem closeAll_only (p : Proxy) (settled : List Settled) :
    OnlyPassages p (p.closeAll settled).now := by
  induction settled generalizing p with
  | nil => exact .refl p
  | cons s rest ih => exact (p.close_only s).trans (ih _)

theorem settleAll_others (p : Proxy) (opened : List (Nat × Opened)) :
    KeepsOthers (opened.map (·.1)) p (p.settleAll opened).now := by
  induction opened generalizing p with
  | nil => exact fun _ _ => rfl
  | cons o rest ih =>
      obtain ⟨id, state⟩ := o
      cases state with
      | ready claim a =>
          have first : KeepsOthers (id :: rest.map (·.1)) p (p.settle id claim a).now :=
            (p.settle_others id claim a).mono (by simp)
          exact first.trans ((ih _).mono (List.subset_cons_self ..))
      | settled result => exact (ih p).mono (List.subset_cons_self ..)
      | waiting claim => exact (ih p).mono (List.subset_cons_self ..)

theorem settleAll_ids (p : Proxy) (opened : List (Nat × Opened)) :
    (p.settleAll opened).result.map (·.passage) ⊆ opened.map (·.1) := by
  induction opened generalizing p with
  | nil => exact List.Subset.refl _
  | cons o rest ih =>
      obtain ⟨id, state⟩ := o
      cases state with
      | ready claim a => exact List.cons_subset_cons id (ih _)
      | settled result => exact List.cons_subset_cons id (ih p)
      | waiting claim => exact List.Subset.trans (ih p) (List.subset_cons_self ..)

theorem closeAll_others (p : Proxy) (settled : List Settled) :
    KeepsOthers (settled.map (·.passage)) p (p.closeAll settled).now := by
  induction settled generalizing p with
  | nil => exact fun _ _ => rfl
  | cons s rest ih =>
      have first : KeepsOthers (s.passage :: rest.map (·.passage)) p (p.close s).now :=
        (p.close_others s).mono (by simp)
      exact first.trans ((ih _).mono (List.subset_cons_self ..))

@[simp] theorem closeAll_events (p : Proxy) (settled : List Settled) :
    (p.closeAll settled).events = [] := by
  induction settled generalizing p with
  | nil => rfl
  | cons s rest ih => simp only [closeAll, Done.events_andThen, close_events, ih, List.append_nil]

/-! ## Opening together -/

/-- What a passage is before anything has happened to its flow. -/
def opening : Flow × Purpose → Passage := fun x => ⟨x.1, x.2, none, none, false, none⟩

section
variable (p : Proxy) (flows : List (Flow × Purpose))

@[simp] theorem openAll_passages :
    (p.openAll flows).now.passages = p.passages ++ flows.map opening := by
  induction flows generalizing p with
  | nil => simp [openAll]
  | cons x rest ih =>
      simp only [openAll, Done.andThen_now, Done.map_now, ih, enter_passages, List.append_assoc,
        List.map_cons]
      rfl

/-- The flows get the next places, one after the other. -/
theorem openAll_ids :
    (p.openAll flows).result.map (·.1) = List.range' p.passages.length flows.length := by
  induction flows generalizing p with
  | nil => rfl
  | cons x rest ih =>
      simp only [openAll, Done.andThen_result, Done.map_result, List.map_cons, ih, enter_passages,
        List.length_append, List.length_cons, List.range'_succ]
      rfl

@[simp] theorem openAll_clock : (p.openAll flows).now.clock = p.clock := by
  induction flows generalizing p with
  | nil => rfl
  | cons x rest ih => simp only [openAll, Done.andThen_now, Done.map_now, ih, enter_clock]

@[simp] theorem openAll_decoder : (p.openAll flows).now.decoder = p.decoder := by
  induction flows generalizing p with
  | nil => rfl
  | cons x rest ih => simp only [openAll, Done.andThen_now, Done.map_now, ih, enter_decoder]

@[simp] theorem openAll_audience : (p.openAll flows).now.audience = p.audience := by
  induction flows generalizing p with
  | nil => rfl
  | cons x rest ih => simp only [openAll, Done.andThen_now, Done.map_now, ih, enter_audience]

@[simp] theorem openAll_events : (p.openAll flows).events = [] := by
  induction flows generalizing p with
  | nil => rfl
  | cons x rest ih =>
      simp only [openAll, Done.events_andThen, enter_events, Done.events_map, ih, List.append_nil]

/-! ## Passing -/

theorem pass_only : OnlyPassages (p.openAll flows).now (p.pass flows).now :=
  (settleAll_only _ _).trans (closeAll_only _ _)

theorem pass_state : (p.pass flows).now.state = (p.openAll flows).now.state :=
  (p.pass_only flows).state

theorem pass_suspended : (p.pass flows).now.suspended = (p.openAll flows).now.suspended :=
  (p.pass_only flows).suspended

@[simp] theorem pass_clock : (p.pass flows).now.clock = p.clock := by
  rw [(p.pass_only flows).clock, openAll_clock]

@[simp] theorem pass_decoder : (p.pass flows).now.decoder = p.decoder := by
  rw [(p.pass_only flows).decoder, openAll_decoder]

@[simp] theorem pass_audience : (p.pass flows).now.audience = p.audience := by
  rw [(p.pass_only flows).audience, openAll_audience]

/-- Flows that come in later leave the earlier passages as they are. -/
theorem pass_earlier {id : Nat} (earlier : id < p.passages.length) :
    (p.pass flows).now.passages[id]? = p.passages[id]? := by
  have outside : id ∉ (p.openAll flows).result.map (·.1) := by
    rw [openAll_ids, List.mem_range'_1]
    omega
  have settled := settleAll_others (p.openAll flows).now (p.openAll flows).result id outside
  have closed := closeAll_others ((p.openAll flows).now.settleAll (p.openAll flows).result).now
    ((p.openAll flows).now.settleAll (p.openAll flows).result).result id
    (fun inside => outside (settleAll_ids _ _ inside))
  calc (p.pass flows).now.passages[id]?
      = (p.openAll flows).now.passages[id]? := closed.trans settled
    _ = p.passages[id]? := by rw [openAll_passages, List.getElem?_append_left earlier]

end

end Faultline.Proxy

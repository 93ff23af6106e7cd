import ProxyLog.Proofs.Header.Arriving
import ProxyLog.Proofs.Transaction.Ledger

/-!
# What waits, by the shape of a log

The ledger of a log is a fold over its records. What waits in it, and where that goes, can also be
told by which records come after which: the last header before a call, the unsets since a header.

* `Once p rs`, `Since p q rs`: a record comes, told by those before it; and all since are of a kind.
* `Waits name`: a managed header of the name is set or unset while headers come in.
* `LeftOver name rs`: what waits after some records leaves something of the name.
* `GoesAtOnce side name`, `BringsTo side`: the headers that do not wait, and the records at which those
  that wait go to a side.
* `keepsName_ledger`, `brings_ledger`: the ledger says the same.
-/

set_option autoImplicit false

namespace ProxyLog

/-! ## Records and those before them -/

/-- Some record comes of which the property holds, with the records before it. -/
def Once (p : List Record → Record → Prop) (rs : List Record) : Prop :=
  ∃ front r back, rs = front ++ r :: back ∧ p front r

/-- Such a record comes, and all records since are of a kind. -/
def Since (p : List Record → Record → Prop) (q : Record → Prop) (rs : List Record) : Prop :=
  ∃ front r back, rs = front ++ r :: back ∧ p front r ∧ ∀ s ∈ back, q s

variable {p p' : List Record → Record → Prop} {q : Record → Prop} {rs back : List Record} {r : Record}
  {name : String} {side : Side} {l : Ledger}

theorem not_since_nil : ¬ Since p q [] := by
  rintro ⟨front, r, back, h, -⟩
  simp at h

/-- The record is the last one, or it came before and the last one is of the kind. -/
theorem since_snoc : Since p q (rs ++ [r]) ↔ p rs r ∨ (Since p q rs ∧ q r) := by
  constructor
  · rintro ⟨front, s, back, h, hp, hq⟩
    rcases List.eq_nil_or_concat back with rfl | ⟨back, t, rfl⟩
    · obtain ⟨rfl, hlast⟩ := List.append_inj' h rfl
      obtain rfl := List.singleton_inj.mp hlast
      exact Or.inl hp
    · have hsplit : rs ++ [r] = (front ++ s :: back) ++ [t] := by simpa using h
      obtain ⟨rfl, hlast⟩ := List.append_inj' hsplit rfl
      obtain rfl := List.singleton_inj.mp hlast
      exact Or.inr ⟨⟨front, s, back, rfl, hp, fun u hu => hq u (by simp [hu])⟩, hq r (by simp)⟩
  · rintro (hp | ⟨⟨front, s, back, rfl, hp, hq⟩, hr⟩)
    · exact ⟨rs, r, [], rfl, hp, by simp⟩
    · refine ⟨front, s, back ++ [r], by simp, hp, ?_⟩
      intro u hu
      rcases List.mem_append.mp hu with hu | hu
      · exact hq u hu
      · rwa [List.mem_singleton.mp hu]

theorem once_iff_since : Once p rs ↔ Since p (fun _ => True) rs := by simp [Once, Since]

theorem not_once_nil : ¬ Once p [] := by
  rw [once_iff_since]
  exact not_since_nil

theorem once_snoc : Once p (rs ++ [r]) ↔ p rs r ∨ Once p rs := by
  rw [once_iff_since, since_snoc, ← once_iff_since, and_true]

theorem Since.once (h : Since p q rs) (himp : ∀ front r, p front r → p' front r) : Once p' rs := by
  obtain ⟨front, r, back, rfl, hp, -⟩ := h
  exact ⟨front, r, back, rfl, himp front r hp⟩

theorem Once.append (h : Once p rs) (back : List Record) : Once p (rs ++ back) := by
  obtain ⟨front, r, rest, rfl, hp⟩ := h
  exact ⟨front, r, rest ++ back, by simp, hp⟩

theorem mem_incomingRecords :
    r ∈ incomingRecords side rs ↔ Once (fun front s => isArriving side front = true ∧ s = r) rs := by
  induction rs using List.reverseRecOn with
  | nil => simp [incomingRecords, incomingRecordsFrom, not_once_nil]
  | append_singleton rs s ih =>
    rw [incomingRecords_snoc, List.mem_append, ih, once_snoc, or_comm]
    refine or_congr_left ?_
    cases isArriving side rs <;> simp [eq_comm]

/-! ## Shapes -/

namespace Record

def Sets (side : Side) (name : String) (r : Record) : Prop :=
  ∃ h, r.payload = .header h ∧ h.direction.side? = some side ∧ h.name = name

def SetsManaged (name : String) (r : Record) : Prop :=
  ∃ h, r.payload = .header h ∧ h.isManaged = true ∧ h.name = name

/-- A header of the name is unset, on either side. -/
def Unsets (name : String) (r : Record) : Prop :=
  ∃ h, r.payload = .unset h ∧ h.direction.side? ≠ none ∧ h.name = name

def UnsetsManaged (name : String) (r : Record) : Prop :=
  ∃ h, r.payload = .unset h ∧ h.isManaged = true ∧ h.name = name

/-- Nothing waits beyond the record. -/
def EndsWaiting (r : Record) : Prop := r.payload = .vclCall ∨ r.payload = .closing

def setSide? (r : Record) : Option Side :=
  match r.payload with
  | .header h => h.direction.side?
  | _ => none

end Record

/-- The side of the last header that is set on one. -/
def lastSetSide? (rs : List Record) : Option Side := rs.reverse.findSome? (·.setSide?)

/-- A managed header of the name is set or unset while headers come in. -/
def Waits (name : String) (front : List Record) (r : Record) : Prop :=
  isArriving .request front = true ∧ (r.SetsManaged name ∨ r.UnsetsManaged name)

/-- An unset that waits tells that the client sent the name. -/
def Sent (name : String) (rs : List Record) : Prop :=
  Since (fun front r => isArriving .request front = true ∧ r.UnsetsManaged name) (fun r => ¬ r.EndsWaiting) rs

/-- A header of the name waits, and no unset has hit it. -/
def Kept (name : String) (rs : List Record) : Prop :=
  Since (fun front r => isArriving .request front = true ∧ r.SetsManaged name)
    (fun r => ¬ r.EndsWaiting ∧ ¬ r.Unsets name) rs

def LeftOver (name : String) (rs : List Record) : Prop := Sent name rs ∨ Kept name rs

/-- A header of the name is set on the side and does not wait. -/
def GoesAtOnce (side : Side) (name : String) (front : List Record) (r : Record) : Prop :=
  r.Sets side name ∧ ¬ (isArriving .request front = true ∧ r.SetsManaged name)

/-- What waits goes to the request at the end, and at the call that ends a client phase to the side of the
last header before it. -/
def BringsTo (side : Side) (front : List Record) (r : Record) : Prop :=
  (r.payload = .closing ∧ side = .request) ∨
    (r.payload = .vclCall ∧ isArriving .request front = true ∧ lastSetSide? front = some side)

/-- Something of the name waited and went to the side. -/
def BroughtTo (side : Side) (name : String) (rs : List Record) : Prop :=
  Once (fun front r => BringsTo side front r ∧ LeftOver name front) rs

theorem lastSetSide?_snoc (rs : List Record) (r : Record) :
    lastSetSide? (rs ++ [r]) = r.setSide?.or (lastSetSide? rs) := by
  rw [lastSetSide?, lastSetSide?, List.reverse_append, List.reverse_singleton, List.singleton_append,
    List.findSome?_cons]
  cases r.setSide? <;> rfl

theorem LeftOver.once_waits (h : LeftOver name rs) : Once (Waits name) rs := by
  rcases h with h | h
  · exact h.once fun front r hp => ⟨hp.1, Or.inr hp.2⟩
  · exact h.once fun front r hp => ⟨hp.1, Or.inl hp.2⟩

theorem BroughtTo.once_waits (h : BroughtTo side name rs) : Once (Waits name) rs := by
  obtain ⟨front, r, back, rfl, -, hleft⟩ := h
  exact hleft.once_waits.append (r :: back)

/-! ## The ledger after one more record -/

namespace Ledger

theorem clientPhase_take (l : Ledger) (r : Record) :
    (l.take r).clientPhase = arrivingAfter .request l.clientPhase r := by
  unfold take arrivingAfter
  cases hr : r.payload with
  | vclCall =>
    simp only [opensSide]
    split
    · simp
    · next h => simpa using h
  | header h =>
    simp only
    split
    · exact (phase_onHeader l h _).1
    · rfl
  | unset h =>
    simp only
    split
    · exact (phase_onUnset l h).1
    · rfl
  | _ => rfl

theorem lastSide_take (l : Ledger) (r : Record) : (l.take r).lastSide = r.setSide?.or l.lastSide := by
  unfold take Record.setSide?
  cases hr : r.payload with
  | vclCall =>
    simp only
    split <;> rfl
  | header h =>
    simp only
    cases hside : h.direction.side? with
    | none => rfl
    | some side => exact (phase_onHeader l h side).2
  | unset h =>
    simp only
    split
    · exact (phase_onUnset l h).2
    · rfl
  | _ => rfl

/-- Nothing waits unless headers come in. -/
def Idle (l : Ledger) : Prop := l.clientPhase = false → l.waiting = []

theorem waiting_take (h : l.Idle) (r : Record) :
    (l.take r).waiting =
      match r.payload with
      | .vclCall => []
      | .closing => []
      | .header g => if l.clientPhase && g.isManaged then l.waiting ++ [⟨g, false⟩] else l.waiting
      | .unset g =>
        if l.clientPhase && g.direction.side?.isSome then l.waiting ++ [⟨g, true⟩] else l.waiting
      | _ => l.waiting := by
  unfold take
  cases hr : r.payload with
  | vclCall =>
    cases hphase : l.clientPhase with
    | true => rfl
    -- A call that is passed over finds nothing waiting.
    | false => simpa using h hphase
  | header g =>
    simp only
    cases hside : g.direction.side? with
    | none =>
      have hm : g.isManaged = false := HeaderLine.isManaged_of_side (by simp [hside])
      simp [hm]
    | some side =>
      simp only [onHeader]
      split <;> rfl
  | unset g =>
    simp only [onUnset]
    cases g.direction.side?.isSome <;> cases l.clientPhase <;> rfl
  | _ => rfl

theorem Idle.take (h : l.Idle) (r : Record) : (l.take r).Idle := by
  intro hphase
  rw [clientPhase_take] at hphase
  rw [waiting_take h]
  unfold arrivingAfter at hphase
  cases hr : r.payload with
  | vclCall => rfl
  | closing => rfl
  | status code => simp [hr] at hphase
  | _ =>
    have hclient : l.clientPhase = false := by simpa [hr] using hphase
    simp [hclient, h hclient]

theorem receivedIn_take (h : l.Idle) (r : Record) (name : String) :
    receivedIn (l.take r).waiting name = true ↔
      (l.clientPhase = true ∧ r.UnsetsManaged name) ∨
        (receivedIn l.waiting name = true ∧ ¬ r.EndsWaiting) := by
  rw [waiting_take h]
  unfold Record.UnsetsManaged Record.EndsWaiting
  cases hr : r.payload with
  | vclCall => simp [receivedIn]
  | closing => simp [receivedIn]
  | header g =>
    simp only
    split <;> simp [receivedIn_snoc]
  | unset g =>
    simp only
    cases hm : g.isManaged with
    | true =>
      rw [HeaderLine.side?_of_isManaged hm]
      cases l.clientPhase <;> simp [receivedIn_snoc, hm, or_comm]
    | false => split <;> simp [receivedIn_snoc, hm]
  | _ => simp

theorem liveIn_take (h : l.Idle) (r : Record) (name : String) :
    liveIn (l.take r).waiting name = true ↔
      (l.clientPhase = true ∧ r.SetsManaged name) ∨
        (liveIn l.waiting name = true ∧ ¬ r.EndsWaiting ∧ ¬ r.Unsets name) := by
  rw [waiting_take h]
  unfold Record.SetsManaged Record.EndsWaiting Record.Unsets
  cases hr : r.payload with
  | vclCall => simp [liveIn]
  | closing => simp [liveIn]
  | header g =>
    simp only
    by_cases hname : g.name = name
    · split
      · next hwaits => simp [liveIn_snoc_of_eq, hname, Bool.and_eq_true_iff.mp hwaits]
      · next hwaits =>
        rw [Bool.and_eq_true] at hwaits
        simp [hname, hwaits]
    · split <;> simp [liveIn_snoc_of_ne, hname]
  | unset g =>
    simp only
    by_cases hname : g.name = name
    · cases hphase : l.clientPhase with
      | false => simp [h hphase, liveIn]
      | true =>
        cases hside : g.direction.side? <;> simp [liveIn_snoc_of_eq, hname, hside]
    · split <;> simp [liveIn_snoc_of_ne, hname]
  | _ => simp

theorem brings_onHeader (l : Ledger) (h : HeaderLine) (last side : Side) (name : String) :
    (l.onHeader h last).brings side name = true ↔
      ((h.direction.side? = some side ∧ h.name = name) ∧ ¬ (l.clientPhase = true ∧ h.isManaged = true)) ∨
        l.brings side name = true := by
  cases hc : l.clientPhase && h.isManaged with
  | true =>
    have hwaits := Bool.and_eq_true_iff.mp hc
    have hsame : (l.onHeader h last).brings side name = l.brings side name := by
      rw [onHeader_of_waits hc]
      rfl
    simp [hsame, hwaits]
  | false =>
    have hwaits : ¬ (l.clientPhase = true ∧ h.isManaged = true) := by simp [← Bool.and_eq_true_iff, hc]
    rw [onHeader_of_not_waits hc, brings_direct]
    simp [hwaits, or_comm]

/-- A record brings a header to a side if the header goes there at once, or ends a batch that goes there. -/
theorem brings_take (l : Ledger) (r : Record) (side : Side) (name : String) :
    (l.take r).brings side name = true ↔
      ((r.Sets side name ∧ ¬ (l.clientPhase = true ∧ r.SetsManaged name)) ∨
        ((r.payload = .closing ∧ side = .request) ∨
          (r.payload = .vclCall ∧ l.clientPhase = true ∧ l.lastSide = some side)) ∧
            keepsName l.waiting name = true) ∨ l.brings side name = true := by
  unfold take Record.Sets Record.SetsManaged
  cases hr : r.payload with
  | vclCall =>
    cases hphase : l.clientPhase with
    | true =>
      have hbring : ({ l.bring l.lastSide with clientPhase := false } : Ledger).brings side name =
          (l.bring l.lastSide).brings side name := rfl
      simp [hbring, brings_bring, or_comm]
    | false => simp
  | closing =>
    rw [brings_bring]
    cases side <;> simp [or_comm]
  | header h =>
    simp only
    cases hside : h.direction.side? with
    | none => simp [hside]
    | some last =>
      simp only
      rw [brings_onHeader]
      by_cases hname : h.name = name <;> simp [hside, hname]
  | unset h =>
    simp only
    split
    · rw [brings_onUnset]
      simp
    · simp
  | status code => simp [brings]
  | _ => simp

end Ledger

/-! ## The ledger of a log -/

theorem clientPhase_ledger (rs : List Record) : (ledger rs).clientPhase = isArriving .request rs := by
  induction rs using List.reverseRecOn with
  | nil => rfl
  | append_singleton rs r ih => rw [ledger_snoc, Ledger.clientPhase_take, ih, isArriving_snoc]

theorem lastSide_ledger (rs : List Record) : (ledger rs).lastSide = lastSetSide? rs := by
  induction rs using List.reverseRecOn with
  | nil => rfl
  | append_singleton rs r ih => rw [ledger_snoc, Ledger.lastSide_take, ih, lastSetSide?_snoc]

theorem idle_ledger (rs : List Record) : (ledger rs).Idle := by
  induction rs using List.reverseRecOn with
  | nil => exact fun _ => rfl
  | append_singleton rs r ih =>
    rw [ledger_snoc]
    exact ih.take r

theorem receivedIn_ledger (name : String) (rs : List Record) :
    receivedIn (ledger rs).waiting name = true ↔ Sent name rs := by
  induction rs using List.reverseRecOn with
  | nil => simp [ledger, Ledger.start, receivedIn, Sent, not_since_nil]
  | append_singleton rs r ih =>
    rw [ledger_snoc, Ledger.receivedIn_take (idle_ledger rs), clientPhase_ledger, ih, Sent, Sent, since_snoc]

theorem liveIn_ledger (name : String) (rs : List Record) :
    liveIn (ledger rs).waiting name = true ↔ Kept name rs := by
  induction rs using List.reverseRecOn with
  | nil => simp [ledger, Ledger.start, liveIn, Kept, not_since_nil]
  | append_singleton rs r ih =>
    rw [ledger_snoc, Ledger.liveIn_take (idle_ledger rs), clientPhase_ledger, ih, Kept, Kept, since_snoc]

/-- The ledger keeps a name where the log leaves something of it over. -/
theorem keepsName_ledger (name : String) (rs : List Record) :
    keepsName (ledger rs).waiting name = true ↔ LeftOver name rs := by
  rw [keepsName, Bool.or_eq_true_iff, receivedIn_ledger, liveIn_ledger]
  rfl

/-- The ledger brings to a side what goes there at once, and what waited and was brought there. -/
theorem brings_ledger (side : Side) (name : String) (rs : List Record) :
    (ledger rs).brings side name = true ↔ Once (GoesAtOnce side name) rs ∨ BroughtTo side name rs := by
  unfold BroughtTo
  induction rs using List.reverseRecOn with
  | nil => simp [ledger, Ledger.start, Ledger.brings, not_once_nil]
  | append_singleton rs r ih =>
    rw [ledger_snoc, Ledger.brings_take, clientPhase_ledger, lastSide_ledger, keepsName_ledger, ih, once_snoc,
      once_snoc]
    exact or_or_or_comm

end ProxyLog

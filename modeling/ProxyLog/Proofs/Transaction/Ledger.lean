import ProxyLog.Proofs.Header.OneName
import ProxyLog.Proofs.Transaction.Buffer

/-!
# Where buffered headers go

The names of the two header sets can be told from the records alone. A header that is not buffered
goes to its own side at once. The others wait in a batch, which ends with the next call or with the
transaction. The end brings a batch to the request; a call brings it to the side of the last header,
or nowhere when there was none. An unset of either side takes a waiting header out of its batch.

* `Batch`, `Ledger`: headers that waited, and the account of a log.
* `keepsName es name`: the events of a batch leave something of a name to be brought.
* `Ledger.take l r`, `ledger rs`: the account after one more record, and of a log.
* `Ledger.brings l side name`: a header of the name went to the side.
* `Builder.Books name b l`: a builder agrees with a ledger about a name.
* `mem_names_of_run`: the names of a header set, read off the ledger.
-/

set_option autoImplicit false

namespace ProxyLog

/-! ## Batches -/

/-- The events of a batch unset a managed header of the name, whose value was the client's. -/
def receivedIn (es : List HeaderEvent) (name : String) : Bool :=
  es.any fun e => e.line.name == name && (e.isUnset && e.line.isManaged)

/-- The last event of the name in a batch is a header. -/
def liveIn (es : List HeaderEvent) (name : String) : Bool :=
  (es.reverse.find? fun e => e.line.name == name).any (!·.isUnset)

/-- The events of a batch leave something of a name: a value that was received, or a header. -/
def keepsName (es : List HeaderEvent) (name : String) : Bool := receivedIn es name || liveIn es name

theorem receivedIn_snoc (es : List HeaderEvent) (e : HeaderEvent) (name : String) :
    receivedIn (es ++ [e]) name =
      (receivedIn es name || (e.line.name == name && (e.isUnset && e.line.isManaged))) := by
  simp [receivedIn]

theorem liveIn_snoc_of_eq {e : HeaderEvent} {name : String} (h : e.line.name = name) (es : List HeaderEvent) :
    liveIn (es ++ [e]) name = !e.isUnset := by
  simp [liveIn, h]

theorem liveIn_snoc_of_ne {e : HeaderEvent} {name : String} (h : e.line.name ≠ name) (es : List HeaderEvent) :
    liveIn (es ++ [e]) name = liveIn es name := by
  simp [liveIn, h]

/-- Headers that waited together, and the side to which they were brought. -/
structure Batch where
  events : List HeaderEvent
  side? : Option Side
  deriving DecidableEq, Repr

/-- The account of a log: whether headers come in, the side of the last header, the events since the
last batch, the batches, and the headers that did not wait. -/
structure Ledger where
  clientPhase : Bool
  lastSide : Option Side
  waiting : List HeaderEvent
  batches : List Batch
  direct : List HeaderLine
  deriving DecidableEq, Repr

namespace Ledger

def start : Ledger := ⟨true, none, [], [], []⟩

/-- Ends a batch. -/
def bring (l : Ledger) (side? : Option Side) : Ledger :=
  { l with waiting := [], batches := l.batches ++ [⟨l.waiting, side?⟩] }

def onHeader (l : Ledger) (h : HeaderLine) (side : Side) : Ledger :=
  if l.clientPhase && h.isManaged then
    { l with lastSide := some side, waiting := l.waiting ++ [⟨h, false⟩] }
  else { l with lastSide := some side, direct := l.direct ++ [h] }

def onUnset (l : Ledger) (h : HeaderLine) : Ledger :=
  if l.clientPhase then { l with waiting := l.waiting ++ [⟨h, true⟩] } else l

/-- Takes in a record. Headers of a stored object are on no side. -/
def take (l : Ledger) (r : Record) : Ledger :=
  match r.payload with
  | .vclCall => if l.clientPhase then { l.bring l.lastSide with clientPhase := false } else l
  | .status _ => { l with clientPhase := true }
  | .header h =>
    match h.direction.side? with
    | some side => l.onHeader h side
    | none => l
  | .unset h => if h.direction.side?.isSome then l.onUnset h else l
  | .closing => l.bring (some .request)
  | _ => l

/-- A header of the name went to the side, at once or in a batch. -/
def brings (l : Ledger) (side : Side) (name : String) : Bool :=
  l.direct.any (fun h => h.direction.side? == some side && h.name == name) ||
    l.batches.any fun batch => batch.side? == some side && keepsName batch.events name

end Ledger

/-- The account of a log. -/
def ledger (rs : List Record) : Ledger := rs.foldl Ledger.take .start

theorem ledger_snoc (rs : List Record) (r : Record) : ledger (rs ++ [r]) = (ledger rs).take r := by
  rw [ledger, List.foldl_append]
  rfl

namespace Ledger
variable {name : String} {h : HeaderLine} {side : Side}

theorem onHeader_of_waits {l : Ledger} (hc : (l.clientPhase && h.isManaged) = true) :
    l.onHeader h side = { l with lastSide := some side, waiting := l.waiting ++ [⟨h, false⟩] } :=
  if_pos hc

theorem onHeader_of_not_waits {l : Ledger} (hc : (l.clientPhase && h.isManaged) = false) :
    l.onHeader h side = { l with lastSide := some side, direct := l.direct ++ [h] } :=
  if_neg (by simp [hc])

theorem phase_onHeader (l : Ledger) (h : HeaderLine) (side : Side) :
    (l.onHeader h side).clientPhase = l.clientPhase ∧ (l.onHeader h side).lastSide = some side := by
  unfold onHeader
  split
  · exact ⟨rfl, rfl⟩
  · exact ⟨rfl, rfl⟩

theorem phase_onUnset (l : Ledger) (h : HeaderLine) :
    (l.onUnset h).clientPhase = l.clientPhase ∧ (l.onUnset h).lastSide = l.lastSide := by
  unfold onUnset
  split
  · exact ⟨rfl, rfl⟩
  · exact ⟨rfl, rfl⟩

theorem brings_direct (l : Ledger) (h : HeaderLine) (last : Option Side) (side : Side) (name : String) :
    { l with lastSide := last, direct := l.direct ++ [h] }.brings side name =
      (l.brings side name || (h.direction.side? == some side && h.name == name)) := by
  simp [brings, Bool.or_comm, Bool.or_left_comm]

/-- The end of a batch brings what it keeps to the side. -/
theorem brings_bring (l : Ledger) (side? : Option Side) (side : Side) (name : String) :
    (l.bring side?).brings side name =
      (l.brings side name || (side? == some side && keepsName l.waiting name)) := by
  simp [brings, bring, Bool.or_assoc]

theorem onHeader_of_ne (hname : h.name ≠ name) (l : Ledger) (side : Side) :
    receivedIn (l.onHeader h side).waiting name = receivedIn l.waiting name ∧
      liveIn (l.onHeader h side).waiting name = liveIn l.waiting name ∧
      ∀ other, (l.onHeader h side).brings other name = l.brings other name := by
  cases hc : l.clientPhase && h.isManaged with
  | true =>
    rw [onHeader_of_waits hc]
    refine ⟨?_, liveIn_snoc_of_ne hname l.waiting, fun _ => rfl⟩
    simp [receivedIn_snoc]
  | false =>
    rw [onHeader_of_not_waits hc]
    refine ⟨rfl, rfl, ?_⟩
    intro other
    simp [brings_direct, hname]

theorem onUnset_of_ne (hname : h.name ≠ name) (l : Ledger) :
    receivedIn (l.onUnset h).waiting name = receivedIn l.waiting name ∧
      liveIn (l.onUnset h).waiting name = liveIn l.waiting name := by
  unfold onUnset
  split
  · refine ⟨?_, liveIn_snoc_of_ne hname l.waiting⟩
    simp [receivedIn_snoc, hname]
  · exact ⟨rfl, rfl⟩

theorem brings_onUnset (l : Ledger) (h : HeaderLine) (side : Side) (name : String) :
    (l.onUnset h).brings side name = l.brings side name := by
  unfold onUnset
  split <;> rfl

end Ledger

namespace Builder
variable {name : String} {b b' : Builder} {l : Ledger} {h : HeaderLine} {side : Side}

/-! ## Builders and ledgers -/

/-- What waits of a name and where the name is, in a builder and in a ledger. -/
structure Placed (name : String) (b : Builder) (l : Ledger) : Prop where
  received : b.buffer.holdsReceived name = receivedIn l.waiting name
  live : b.buffer.holdsLive name = liveIn l.waiting name
  contains : ∀ side, (b.headers side).contains name = l.brings side name

/-- A builder agrees with a ledger about a name. -/
structure Books (name : String) (b : Builder) (l : Ledger) : Prop where
  clientPhase : b.clientPhase = l.clientPhase
  lastSide : b.lastSide = l.lastSide
  same : Placed name b l

theorem Books.push (hk : Books name b l) (r : Record) : Books name (b.push r) l := by
  refine ⟨hk.clientPhase, hk.lastSide, hk.same.received, hk.same.live, ?_⟩
  intro side
  rw [headers_push]
  exact hk.same.contains side

/-- A merge of the buffer is a batch that is brought to the same side. -/
theorem Books.bring (hk : Books name b l) (hb : b.Sound) (side : Side) :
    Books name (b.mergeBuffer side) (l.bring (some side)) := by
  refine ⟨hk.clientPhase, hk.lastSide, rfl, rfl, ?_⟩
  intro other
  rw [Ledger.brings_bring, keepsName, ← hk.same.received, ← hk.same.live, ← hk.same.contains]
  change ((b.mapHeaders side (·.merge b.buffer)).headers other).contains name = _
  by_cases ho : other = side
  · rw [ho, headers_mapHeaders_self, HeaderSet.contains_merge hb.buffered.wellFormed]
    simp [Bool.or_assoc]
  · have hne : side ≠ other := fun heq => ho heq.symm
    rw [headers_mapHeaders_of_ne ho]
    simp [hne]

/-- A buffer that is dropped is a batch that is brought nowhere. -/
theorem Books.drop (hk : Books name b l) :
    Books name { b with clientPhase := false, buffer := .empty } { l.bring none with clientPhase := false } := by
  refine ⟨rfl, hk.lastSide, rfl, rfl, ?_⟩
  intro side
  have hbrings : (l.bring none).brings side name = l.brings side name := by simp [Ledger.brings_bring]
  exact (hk.same.contains side).trans hbrings.symm

theorem Books.onCall (hk : Books name b l) (hb : b.Sound) :
    Books name b.onCall (if l.clientPhase then { l.bring l.lastSide with clientPhase := false } else l) := by
  cases hphase : l.clientPhase with
  | false =>
    have hcall : b.onCall = b := by simp [Builder.onCall, hk.clientPhase, hphase]
    rw [hcall, if_neg (by simp)]
    exact hk
  | true =>
    rw [if_pos rfl, ← hk.lastSide]
    cases hlast : b.lastSide with
    | none =>
      rw [hb.onCall_of_none hlast]
      exact hk.drop
    | some side =>
      have hbring := hk.bring hb side
      rw [hb.onCall_of_lastSide hlast]
      exact ⟨rfl, hbring.lastSide, hbring.same.received, hbring.same.live, hbring.same.contains⟩

/-! ## Headers and unsets -/

theorem lastSide_onHeader (hside : h.direction.side? = some side) (b : Builder) :
    (b.onHeader h).lastSide = some side := by
  cases hc : b.clientPhase && h.isManaged with
  | true => rw [onHeader_of_buffered hside hc]
  | false =>
    obtain ⟨state, -, heq⟩ := onHeader_of_not_buffered hside hc
    rw [heq]
    rfl

theorem Placed.onHeader_of_ne (hp : Placed name b l) (hname : h.name ≠ name)
    (hne : canonicalName name ≠ canonicalName h.name) (side : Side) :
    Placed name (b.onHeader h) (l.onHeader h side) := by
  obtain ⟨hheaders, hbuffer⟩ := get?_onHeader_of_ne hne b
  obtain ⟨hreceived, hlive⟩ := HeaderSet.holds_congr hbuffer
  obtain ⟨hreceived', hlive', hbrings⟩ := Ledger.onHeader_of_ne hname l side
  refine ⟨?_, ?_, ?_⟩
  · rw [hreceived, hreceived']
    exact hp.received
  · rw [hlive, hlive']
    exact hp.live
  · intro other
    rw [HeaderSet.contains_congr (hheaders other), hbrings]
    exact hp.contains other

/-- A header that is buffered waits. -/
theorem Placed.onHeader_buffered (hp : Placed h.name b l) (hside : h.direction.side? = some side)
    (hbuffer : (b.clientPhase && h.isManaged) = true) (hwaits : (l.clientPhase && h.isManaged) = true) :
    Placed h.name (b.onHeader h) (l.onHeader h side) := by
  have hstate : (if b.buffer.first h.name false = "" then HeaderState.added else .modified) ≠ .deleted ∧
      ((if b.buffer.first h.name false = "" then HeaderState.added else .modified) == .received) = false := by
    split <;> simp
  rw [onHeader_of_buffered hside hbuffer, Ledger.onHeader_of_waits hwaits]
  refine ⟨?_, ?_, hp.contains⟩
  · rw [HeaderSet.addProcessed, HeaderSet.holdsReceived_add_self, hstate.2, receivedIn_snoc, hp.received]
    simp
  · rw [HeaderSet.addProcessed, HeaderSet.holdsLive_add_self _ _ _ hstate.1, liveIn_snoc_of_eq rfl]
    rfl

/-- A header that is not buffered goes to its side at once. -/
theorem Placed.onHeader_direct (hp : Placed h.name b l) (hside : h.direction.side? = some side)
    (hbuffer : (b.clientPhase && h.isManaged) = false) (hwaits : (l.clientPhase && h.isManaged) = false) :
    Placed h.name (b.onHeader h) (l.onHeader h side) := by
  obtain ⟨state, -, heq⟩ := onHeader_of_not_buffered hside hbuffer
  rw [heq, Ledger.onHeader_of_not_waits hwaits]
  refine ⟨hp.received, hp.live, ?_⟩
  intro other
  rw [Ledger.brings_direct, ← hp.contains, hside]
  by_cases ho : other = side
  · rw [ho, headers_mapHeaders_self, HeaderSet.contains_add_self]
    simp
  · have hno : (some side == some other) = false :=
      beq_eq_false_iff_ne.mpr fun heq => ho (Option.some.inj heq).symm
    rw [headers_mapHeaders_of_ne ho, hno, Bool.false_and, Bool.or_false]
    rfl

theorem Books.onHeader (hk : Books name b l) (hside : h.direction.side? = some side)
    (hn : canonicalName name = name) (hc : canonicalName h.name = h.name) :
    Books name (b.onHeader h) (l.onHeader h side) := by
  obtain ⟨hphase, hlast⟩ := Ledger.phase_onHeader l h side
  refine ⟨?_, ?_, ?_⟩
  · rw [clientPhase_onHeader, hphase]
    exact hk.clientPhase
  · rw [lastSide_onHeader hside, hlast]
  · by_cases hname : h.name = name
    · obtain rfl := hname
      have hwaits : (l.clientPhase && h.isManaged) = (b.clientPhase && h.isManaged) := by rw [hk.clientPhase]
      cases hbuffer : b.clientPhase && h.isManaged with
      | true => exact hk.same.onHeader_buffered hside hbuffer (hwaits.trans hbuffer)
      | false => exact hk.same.onHeader_direct hside hbuffer (hwaits.trans hbuffer)
    · exact hk.same.onHeader_of_ne hname (canonicalName_ne hn hc hname) side

theorem lastSide_onUnset (b : Builder) (h : HeaderLine) : (b.onUnset h).lastSide = b.lastSide := by
  cases hside : h.direction.side? with
  | none => rw [onUnset_of_object hside]
  | some side =>
    rw [onUnset_eq hside]
    rfl

theorem contains_onUnset (hside : h.direction.side? = some side) (b : Builder) (other : Side) (name : String) :
    ((b.onUnset h).headers other).contains name = (b.headers other).contains name := by
  rw [onUnset_eq hside]
  change ((b.mapHeaders side (·.delete h.name true)).headers other).contains name = _
  by_cases ho : other = side
  · rw [ho, headers_mapHeaders_self, HeaderSet.contains_delete]
  · rw [headers_mapHeaders_of_ne ho]

theorem Placed.onUnset_of_ne (hp : Placed name b l) (hside : h.direction.side? = some side)
    (hname : h.name ≠ name) (hne : canonicalName name ≠ canonicalName h.name) :
    Placed name (b.onUnset h) (l.onUnset h) := by
  obtain ⟨-, hbuffer⟩ := get?_onUnset_of_ne hne b
  obtain ⟨hreceived, hlive⟩ := HeaderSet.holds_congr hbuffer
  obtain ⟨hreceived', hlive'⟩ := Ledger.onUnset_of_ne hname l
  refine ⟨?_, ?_, ?_⟩
  · rw [hreceived, hreceived']
    exact hp.received
  · rw [hlive, hlive']
    exact hp.live
  · intro other
    rw [contains_onUnset hside, Ledger.brings_onUnset]
    exact hp.contains other

/-- Outside the client phase nothing waits, and an unset leaves it so. -/
theorem Placed.onUnset_idle (hp : Placed h.name b l) (hside : h.direction.side? = some side) (hb : b.Sound)
    (hclient : b.clientPhase = false) (hledger : l.onUnset h = l) :
    Placed h.name (b.onUnset h) (l.onUnset h) := by
  have hbuffer : (b.onUnset h).buffer = b.buffer := by
    rw [onUnset_eq hside]
    simp only [hclient, Bool.false_and, hb.idle hclient]
    rfl
  rw [hledger]
  refine ⟨?_, ?_, ?_⟩
  · rw [hbuffer]
    exact hp.received
  · rw [hbuffer]
    exact hp.live
  · intro other
    rw [contains_onUnset hside]
    exact hp.contains other

/-- In the client phase an unset waits: it leaves no live value, and a managed one tells what came. -/
theorem Placed.onUnset_waits (hp : Placed h.name b l) (hside : h.direction.side? = some side)
    (hclient : b.clientPhase = true) (hledger : l.onUnset h = { l with waiting := l.waiting ++ [⟨h, true⟩] }) :
    Placed h.name (b.onUnset h) (l.onUnset h) := by
  have hbuffer : (b.onUnset h).buffer =
      (if h.isManaged then b.buffer.add h.name h.value .received else b.buffer).delete h.name false := by
    rw [onUnset_eq hside]
    simp only [hclient, Bool.true_and]
  refine ⟨?_, ?_, ?_⟩
  · rw [hledger, hbuffer, HeaderSet.holdsReceived_delete_self, receivedIn_snoc, ← hp.received]
    cases hm : h.isManaged with
    | true =>
      rw [if_pos rfl, HeaderSet.holdsReceived_add_self]
      simp
    | false => simp
  · rw [hledger, hbuffer, HeaderSet.holdsLive_delete_self, liveIn_snoc_of_eq rfl]
    rfl
  · intro other
    rw [contains_onUnset hside, Ledger.brings_onUnset]
    exact hp.contains other

theorem Books.onUnset (hk : Books name b l) (hb : b.Sound) (hside : h.direction.side? = some side)
    (hn : canonicalName name = name) (hc : canonicalName h.name = h.name) :
    Books name (b.onUnset h) (l.onUnset h) := by
  obtain ⟨hphase, hlast⟩ := Ledger.phase_onUnset l h
  refine ⟨?_, ?_, ?_⟩
  · rw [clientPhase_onUnset, hphase]
    exact hk.clientPhase
  · rw [lastSide_onUnset, hlast]
    exact hk.lastSide
  · by_cases hname : h.name = name
    · obtain rfl := hname
      cases hclient : b.clientPhase with
      | false => exact hk.same.onUnset_idle hside hb hclient (if_neg (by simp [← hk.clientPhase, hclient]))
      | true => exact hk.same.onUnset_waits hside hclient (if_pos (by rw [← hk.clientPhase, hclient]))
    · exact hk.same.onUnset_of_ne hside hname (canonicalName_ne hn hc hname)

/-! ## Runs -/

theorem Books.accept (hk : Books name b l) (hb : b.Sound) (hn : canonicalName name = name) {r : Record}
    (hr : r.FromLine) : Books name (b.accept r) (l.take r) := by
  have hpush := hk.push r
  have hbpush := hb.push r
  unfold Builder.accept Ledger.take
  cases hpayload : r.payload with
  | vclCall => exact hpush.onCall hbpush
  | status code =>
    have hsame := hpush.same
    exact ⟨rfl, hpush.lastSide, hsame.received, hsame.live, hsame.contains⟩
  | closing =>
    have hclosing := hpush.bring hbpush .request
    rw [← onClosing_eq] at hclosing
    exact hclosing
  | header h =>
    have hc := canonicalName_of_fromLine hr (Record.headerEvent?_set_iff.mpr hpayload)
    cases hside : h.direction.side? with
    | none =>
      simp only [hside, onHeader_of_object hside]
      exact hpush
    | some side =>
      simp only [hside]
      exact hpush.onHeader hside hn hc
  | unset h =>
    have hc := canonicalName_of_fromLine hr (Record.headerEvent?_unset_iff.mpr hpayload)
    cases hside : h.direction.side? with
    | none =>
      simp only [hside, onUnset_of_object hside]
      exact hpush
    | some side =>
      simp only [hside]
      exact hpush.onUnset hbpush hside hn hc
  | link child =>
    have hlast : ((b.push r).onLink child).lastSide = (b.push r).lastSide := by
      unfold onLink
      split <;> rfl
    refine ⟨?_, ?_, ?_, ?_, ?_⟩
    · exact (clientPhase_onLink _ child).trans hpush.clientPhase
    · exact hlast.trans hpush.lastSide
    · simp only [buffer_onLink]
      exact hpush.same.received
    · simp only [buffer_onLink]
      exact hpush.same.live
    · intro side
      simp only [headers_onLink]
      exact hpush.same.contains side
  | _ => exact hpush

variable {t : Transaction} {rs : List Record} {vxid level : Int} {kind : TransactionKind} {line : String}

theorem books_of_run (hrun : Run (.started vxid kind level line) rs b) (hn : canonicalName name = name) :
    Books name b (ledger rs) := by
  induction hrun with
  | opened hr hp =>
    rename_i first parent
    have hledger : ledger [first] = Ledger.start := by simp [ledger, Ledger.take, hp]
    rw [hledger]
    refine ⟨rfl, rfl, rfl, rfl, ?_⟩
    intro side
    cases side <;> rfl
  | accept hb hr hp ih =>
    rw [ledger_snoc]
    exact ih.accept (sound_of_run hb) hn hr

/-- The names of a header set are the canonical names that the ledger brings to its side. -/
theorem mem_names_of_run (hrun : Run (.started vxid kind level line) rs b) (side : Side) :
    name ∈ (b.headers side).names ↔ canonicalName name = name ∧ (ledger rs).brings side name = true := by
  rw [(wellFormed_of_run hrun side).mem_names]
  constructor
  · rintro ⟨hn, hcontains⟩
    exact ⟨hn, by rw [← (books_of_run hrun hn).same.contains]; exact hcontains⟩
  · rintro ⟨hn, hbrings⟩
    exact ⟨hn, by rw [(books_of_run hrun hn).same.contains]; exact hbrings⟩

end Builder

end ProxyLog

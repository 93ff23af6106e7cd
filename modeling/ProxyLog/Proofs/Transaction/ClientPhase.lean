import Mathlib.Data.List.DropRight
import ProxyLog.Proofs.Transaction.Received
import ProxyLog.Proofs.Transaction.Refusal

/-!
# The buffer and the client phase

Headers wait in the buffer during a client phase only, and the record that closes a transaction leaves none there.
This holds whatever records are given to `begin` and `feed`, in whatever order, and of drafts as of builders.

* `sinceStatus rs`: the records since the last status line; `isArriving_request_iff` tells the client phase by them.
* `Builder.Buffering rs b`: the buffer of `b` after the records `rs`; kept by `begin` and by `feed`.
* `Draft.Fed t rs d`: the actions that lead from the start of `t` to `d` were fed the records `rs`.
* `Draft.BufferInvariant rs d`: what is true of buffer, phase and last header.
* `Draft.bufferInvariant_of_fed`: it is true of every draft; a record that closes the transaction empties the buffer.
-/

set_option autoImplicit false

namespace ProxyLog

variable {rs : List Record} {r : Record}

/-! ## Records since the last status line -/

/-- The records behind the last status line, or all of them when there is none. -/
def sinceStatus (rs : List Record) : List Record := rs.rtakeWhile (·.family != .status)

theorem sinceStatus_snoc (rs : List Record) (r : Record) :
    sinceStatus (rs ++ [r]) = if r.family = .status then [] else sinceStatus rs ++ [r] := by
  rw [sinceStatus, List.rtakeWhile_concat]
  by_cases h : r.family = .status <;> simp [h, sinceStatus]

/-- Headers of the request come in as long as there was no call since the last status line. -/
theorem isArriving_request_iff :
    isArriving .request rs = true ↔ ∀ r ∈ sinceStatus rs, r.family ≠ .vclCall := by
  induction rs using List.reverseRecOn with
  | nil => simp [isArriving, sinceStatus]
  | append_singleton rs r ih =>
    rw [isArriving_snoc, sinceStatus_snoc]
    obtain ⟨tag, value, line, payload⟩ := r
    cases payload with
    | vclCall => simp [arrivingAfter, opensSide, Record.family, Payload.family]
    | status code => simp [arrivingAfter, Record.family, Payload.family]
    | _ => simpa [arrivingAfter, Record.family, Payload.family, or_imp, forall_and] using ih

/-! ## Names and values of a buffer -/

namespace HeaderSet
variable {hs : HeaderSet}

theorem Buffered.mem_proxyManaged (h : hs.Buffered) : ∀ name ∈ hs.names, name ∈ proxyManaged := by
  intro name hname
  obtain ⟨hcanonical, hcontains⟩ := h.wellFormed.mem_names.mp hname
  obtain ⟨g, hg⟩ := Option.isSome_iff_exists.mp hcontains
  have hmanaged := h.managed name g hg
  rw [isProxyManaged, hcanonical] at hmanaged
  exact List.contains_iff_mem.mp hmanaged

theorem WellFormed.received_of_clean (h : hs.WellFormed) (hc : hs.Clean) :
    ∀ g ∈ hs.headers, ∀ v ∈ g.received, v.state = .received :=
  fun g hg => (hc g.name g (h.get?_of_mem hg).2).received

end HeaderSet

/-! ## Builders -/

namespace Builder
variable {b : Builder}

/-- The buffer is that of a builder in the phase to which the records lead. -/
structure Buffering (rs : List Record) (b : Builder) : Prop where
  sound : b.Sound
  clean : b.buffer.Clean
  phase : b.clientPhase = isArriving .request rs

theorem buffering_start (t : Transaction) : Buffering [] (start t) := ⟨sound_start t, HeaderSet.clean_set_empty, rfl⟩

/-- Opening a transaction leaves the buffer and the phase alone. -/
theorem Buffering.begin (hb : Buffering rs b) (r : Record) (line : String) :
    Buffering rs (b.begin r line).builder := by
  by_cases hr : r.family = .opening
  · obtain ⟨parent, hparent⟩ := Record.exists_payload_of_opening hr
    rw [begin_of_opening b hparent]
    exact ⟨⟨hb.sound.buffered, hb.sound.idle⟩, hb.clean, hb.phase⟩
  · rw [begin_of_ne_opening b hr]
    exact hb

theorem Buffering.feed (hb : Buffering rs b) (r : Record) : Buffering (rs ++ [r]) (b.feed r).builder := by
  by_cases hr : r.family = .opening
  · obtain ⟨parent, hparent⟩ := Record.exists_payload_of_opening hr
    have hphase : isArriving .request (rs ++ [r]) = isArriving .request rs := by
      simp only [isArriving_snoc, arrivingAfter, hparent]
    rw [feed_of_opening b hr]
    exact ⟨hb.sound, hb.clean, hb.phase.trans hphase.symm⟩
  · rw [feed_of_ne_opening b hr]
    refine ⟨hb.sound.accept r, clean_accept hb.clean hb.sound r, ?_⟩
    rw [clientPhase_accept, isArriving_snoc, hb.phase]

/-- A record that closes the transaction empties the buffer. -/
theorem buffer_feed_of_closed (h : (b.feed r).outcome.result = .ok true) : (b.feed r).builder.buffer = .empty := by
  by_cases hr : r.family = .opening
  · rw [feed_of_opening b hr] at h
    cases h
  · rw [feed_of_ne_opening b hr] at h ⊢
    have hclosing : r.payload = .closing := by simpa using h
    simp only [accept, hclosing, onClosing_eq]
    rfl

end Builder

/-! ## Drafts -/

namespace Draft
variable {t : Transaction} {d d' : Draft}

/-- The drafts that `begin` and `feed` lead to, with the records that were given to `feed`, in order. -/
inductive Fed (t : Transaction) : List Record → Draft → Prop
  | start : Fed t [] (.start t)
  | begin {rs : List Record} {d : Draft} (h : Fed t rs d) {r : Record} (hr : r.FromLine) (line : String) :
      Fed t rs (afterwards (begin r line) d)
  | feed {rs : List Record} {d : Draft} (h : Fed t rs d) {r : Record} (hr : r.FromLine) :
      Fed t (rs ++ [r]) (afterwards (feed r) d)

theorem reached_iff_fed : Reached t d ↔ ∃ rs, Fed t rs d := by
  constructor
  · intro h
    induction h with
    | start => exact ⟨[], .start⟩
    | begin _ hr line ih =>
      obtain ⟨rs, hfed⟩ := ih
      exact ⟨rs, hfed.begin hr line⟩
    | feed _ hr ih =>
      obtain ⟨rs, hfed⟩ := ih
      exact ⟨_, hfed.feed hr⟩
  · rintro ⟨rs, h⟩
    induction h with
    | start => exact .start
    | begin _ hr line ih => exact ih.begin hr line
    | feed _ hr ih => exact ih.feed hr

/-- What the draft keeps of the records that were fed to it, as far as the buffer goes. -/
structure BufferInvariant (rs : List Record) (d : Draft) : Prop where
  /-- The client phase lasts as long as there was no call since the start or the last status line. -/
  phase : d.clientPhase = true ↔ ∀ r ∈ sinceStatus rs, r.family ≠ .vclCall
  waiting : d.buffer.size ≠ 0 → d.clientPhase = true
  managed : ∀ name ∈ d.buffer.names, name ∈ proxyManaged
  received : ∀ g ∈ d.buffer.headers, ∀ v ∈ g.received, v.state = .received
  lastHeader : ∀ h, d.lastHeader = some h → h.direction ≠ .object

theorem buffering_of_fed (h : Fed t rs d) : Builder.Buffering rs d.builder := by
  induction h with
  | start => exact Builder.buffering_start t
  | begin h hr line ih =>
    have hsided := sided_of_reached (reached_iff_fed.mpr ⟨_, h⟩)
    rw [builder_afterwards (takes_begin hsided _ line).agrees]
    exact ih.begin _ line
  | feed h hr ih =>
    have hsided := sided_of_reached (reached_iff_fed.mpr ⟨_, h⟩)
    rw [builder_afterwards (takes_feed hsided _).agrees]
    exact ih.feed _

theorem Sided.direction_ne_object (hd : d.Sided) : ∀ h, d.lastHeader = some h → h.direction ≠ .object := by
  intro h hlast hobject
  obtain ⟨side, hside⟩ := hd h hlast
  rw [hobject] at hside
  cases hside

theorem buffer_of_closed (hd : d.Sided) (h : (feed r).run d = .ok true d') : d'.buffer = .empty := by
  have hagrees := (takes_feed hd r).agrees
  rw [h] at hagrees
  obtain ⟨hbuilder, hresult, -⟩ := hagrees
  have hbuffer := Builder.buffer_feed_of_closed hresult
  rw [hbuilder] at hbuffer
  exact hbuffer

/-- Whatever is given to `begin` and `feed`: only in a client phase headers wait, they are headers that the proxy
manages, and what they received is marked so; the last header that is remembered is none of an object; and a record
that closes the transaction leaves no header waiting. -/
theorem bufferInvariant_of_fed (t : Transaction) :
    (∀ b, Builder.Reached t b ↔ ∃ rs d, Fed t rs d ∧ d.builder = b) ∧
      ∀ rs d, Fed t rs d → BufferInvariant rs d ∧
        ∀ (r : Record) (d' : Draft), (feed r).run d = .ok true d' → d'.buffer.size = 0 := by
  constructor
  · intro b
    rw [reached_builder_iff]
    constructor
    · rintro ⟨d, hd, rfl⟩
      obtain ⟨rs, hfed⟩ := reached_iff_fed.mp hd
      exact ⟨rs, d, hfed, rfl⟩
    · rintro ⟨rs, d, hfed, rfl⟩
      exact ⟨d, reached_iff_fed.mpr ⟨rs, hfed⟩, rfl⟩
  · intro rs d hfed
    have hsided := sided_of_reached (reached_iff_fed.mpr ⟨rs, hfed⟩)
    obtain ⟨hsound, hclean, hphase⟩ := buffering_of_fed hfed
    refine ⟨⟨?_, ?_, hsound.buffered.mem_proxyManaged, hsound.buffered.wellFormed.received_of_clean hclean,
      hsided.direction_ne_object⟩, ?_⟩
    · rw [← isArriving_request_iff, ← hphase]
      rfl
    · intro hsize
      by_contra hphase
      have hempty : d.buffer = .empty := hsound.idle (Bool.eq_false_iff.mpr hphase)
      exact hsize (by rw [hempty]; rfl)
    · intro r d' hclosed
      rw [buffer_of_closed hsided hclosed]
      rfl

def statusRecord : Record := ⟨"RespStatus", "503", "--  RespStatus 503", .status 503⟩

def unsetRecord : Record :=
  ⟨"ReqUnset", "Via: b", "--  ReqUnset Via: b", .unset ⟨"Via", "b", .request⟩⟩

def closingRecord : Record := ⟨"End", "", "--  End", .closing⟩

/-- The buffering draft after a call, in a client phase that a status line has opened again. -/
def reopenedDraft : Draft :=
  afterwards (feed unsetRecord) (afterwards (feed statusRecord) (afterwards (feed callRecord) bufferingDraft))

theorem bufferInvariant_of_fed_reopened :
    reopenedDraft.buffer.values "Via" true = [⟨"b", .received⟩] ∧
      BufferInvariant [bufferedRecord, objectRecord, callRecord, statusRecord, unsetRecord] reopenedDraft ∧
      (feed closingRecord).run reopenedDraft = .ok true (afterwards (feed closingRecord) reopenedDraft) ∧
      (afterwards (feed closingRecord) reopenedDraft).buffer.size = 0 := by
  have hopening : openingRecord.FromLine := ⟨openingRecord.line, by decide +kernel⟩
  have hbuffered : bufferedRecord.FromLine := ⟨bufferedRecord.line, by decide +kernel⟩
  have hobject : objectRecord.FromLine := ⟨objectRecord.line, by decide +kernel⟩
  have hcall : callRecord.FromLine := ⟨callRecord.line, by decide +kernel⟩
  have hstatus : statusRecord.FromLine := ⟨statusRecord.line, by decide +kernel⟩
  have hunset : unsetRecord.FromLine := ⟨unsetRecord.line, by decide +kernel⟩
  have hbuffering : Fed (.started 4 .request 2 "**  << Request  >> 4") [bufferedRecord, objectRecord] bufferingDraft :=
    ((Fed.start.begin hopening openingRecord.line).feed hbuffered).feed hobject
  have hreopened := ((hbuffering.feed hcall).feed hstatus).feed hunset
  obtain ⟨hinvariant, hclosed⟩ := (bufferInvariant_of_fed _).2 _ reopenedDraft hreopened
  have hrun : (feed closingRecord).run reopenedDraft = .ok true (afterwards (feed closingRecord) reopenedDraft) := rfl
  exact ⟨by decide +kernel, hinvariant, hrun, hclosed closingRecord _ hrun⟩

end Draft

end ProxyLog

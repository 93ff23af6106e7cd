import ProxyLog.Proofs.Log.Grammar
import ProxyLog.Proofs.Record.FromLine

/-!
# Well-formed transactions

The start line, the opening record and each further record settle a part of a transaction. Together they make it
well-formed, whatever the log says.

* `Transaction.Framed t first body last parent`: the records of `t` stand between an opening and a closing one,
  and the opening one, which names `parent`, tells the composite id.
* `Transaction.WellFormed t`: a framed transaction of proper ids, whose children are those of its links.
* `children_of_run`: the children of a builder are those of the links that it took in, each once, in the order in
  which they first came.
* `Block.Yields.wellFormed`: what a block yields is well-formed.
-/

set_option autoImplicit false

namespace ProxyLog

/-! ## Each element once -/

section EraseDups
variable {α : Type} [BEq α] [LawfulBEq α]

theorem eraseDups_concat (l : List α) (a : α) :
    (l ++ [a]).eraseDups = if l.contains a then l.eraseDups else l.eraseDups ++ [a] := by
  rw [List.eraseDups_append, List.removeAll]
  by_cases h : a ∈ l
  · simp [h]
  · simp [h, List.eraseDups_cons]

theorem nodup_eraseDups (l : List α) : l.eraseDups.Nodup := by
  induction l using List.reverseRecOn with
  | nil => exact List.nodup_nil
  | append_singleton l a ih =>
    rw [eraseDups_concat]
    split
    · exact ih
    · next hmem =>
      have hnew : a ∉ l.eraseDups := by simpa [List.mem_eraseDups] using hmem
      exact List.nodup_append.mpr ⟨ih, List.nodup_singleton a, by
        rintro b hb c hc rfl
        exact hnew (List.mem_singleton.mp hc ▸ hb)⟩

end EraseDups

/-! ## Well-formed transactions -/

namespace Transaction

/-- The records stand between one that opens and one that closes the transaction. -/
structure Framed (t : Transaction) (first : Record) (body : List Record) (last : Record) (parent : Edge) : Prop where
  records : t.records = first :: (body ++ [last])
  opens : first.payload = .opening parent
  plain : ArePlain body
  closes : last.family = .closing
  txid : t.txid = txidOf t.vxid parent.kind parent.esiLevel
  parent : t.parent = if parent.vxid = 0 then none else some parent.vxid

structure WellFormed (t : Transaction) : Prop where
  framed : ∃ first body last parent, t.Framed first body last parent
  vxid : InVxidRange t.vxid
  parent : ∀ p, t.parent = some p → p ≠ 0 ∧ InVxidRange p
  child : ∀ c ∈ t.children, InVxidRange c
  children : t.children = (t.links.map (·.vxid)).eraseDups
  nodup : t.children.Nodup

end Transaction

/-! ## Links and children -/

namespace Builder
variable {b : Builder} {r : Record} {child : Edge} {rs : List Record}

theorem links_accept_link (h : r.payload = .link child) (b : Builder) :
    (b.accept r).transaction.links = b.transaction.links ++ [child] := by
  unfold Transaction.links
  rw [records_accept, List.filterMap_append]
  simp [h]

theorem links_accept_other (h : ∀ child, r.payload ≠ .link child) (b : Builder) :
    (b.accept r).transaction.links = b.transaction.links := by
  unfold Transaction.links
  rw [records_accept, List.filterMap_append]
  refine (congrArg (b.transaction.links ++ ·) (List.filterMap_eq_nil_iff.mpr ?_)).trans (List.append_nil _)
  intro q hq
  rw [List.mem_singleton.mp hq]
  split
  · next child hchild => exact absurd hchild (h child)
  · rfl

theorem children_mapHeaders (t : Transaction) (side : Side) (f : HeaderSet → HeaderSet) :
    (t.mapHeaders side f).children = t.children := by
  cases side <;> rfl

theorem children_accept_link (h : r.payload = .link child) (b : Builder) :
    (b.accept r).transaction.children =
      if b.transaction.children.contains child.vxid then b.transaction.children
      else b.transaction.children ++ [child.vxid] := by
  rw [part_accept children_mapHeaders, h]
  show ((b.push r).onLink child).transaction.children = _
  exact apply_ite (fun c : Builder => c.transaction.children) _ _ _

theorem children_accept_other (h : ∀ child, r.payload ≠ .link child) (b : Builder) :
    (b.accept r).transaction.children = b.transaction.children := by
  rw [part_accept children_mapHeaders]
  split
  · next child hchild => exact absurd hchild (h child)
  · rfl

theorem children_accept (hb : b.transaction.children = (b.transaction.links.map (·.vxid)).eraseDups) (r : Record) :
    (b.accept r).transaction.children = ((b.accept r).transaction.links.map (·.vxid)).eraseDups := by
  by_cases hlink : ∃ child, r.payload = .link child
  · obtain ⟨child, hchild⟩ := hlink
    have hcontains : b.transaction.children.contains child.vxid =
        (b.transaction.links.map (·.vxid)).contains child.vxid := by
      rw [hb, Bool.eq_iff_iff, List.contains_iff_mem, List.contains_iff_mem, List.mem_eraseDups]
    rw [children_accept_link hchild, links_accept_link hchild, List.map_append, List.map_singleton,
      eraseDups_concat, hcontains, ← hb]
  · have hother : ∀ child, r.payload ≠ .link child := fun child h => hlink ⟨child, h⟩
    rw [children_accept_other hother, links_accept_other hother, hb]

theorem children_of_run {vxid level : Int} {kind : TransactionKind} {line : String}
    (h : Run (.started vxid kind level line) rs b) :
    b.transaction.children = (b.transaction.links.map (·.vxid)).eraseDups := by
  induction h with
  | @opened r parent hr hp =>
    have hlinks : ((start (.started vxid kind level line)).opened r parent).transaction.links = [] := by
      simp [opened, start, Transaction.started, Transaction.links, hp]
    rw [hlinks]
    rfl
  | accept hb hr hp ih => exact children_accept ih _

theorem child_of_run {vxid level : Int} {kind : TransactionKind} {line : String}
    (h : Run (.started vxid kind level line) rs b) : ∀ c ∈ b.transaction.children, InVxidRange c := by
  intro c hc
  rw [children_of_run h, List.mem_eraseDups, List.mem_map] at hc
  obtain ⟨child, hchild, rfl⟩ := hc
  obtain ⟨r, hr, hlink⟩ := List.mem_filterMap.mp hchild
  rw [records_of_run h] at hr
  refine edge?_of_fromLine (fromLine_of_run h r hr) ?_
  split at hlink
  · next child' hpayload =>
    obtain rfl := Option.some.inj hlink
    rw [hpayload]
    rfl
  · cases hlink

end Builder

/-! ## What a block yields -/

theorem Starts.inVxidRange {line : String} {t : Transaction} (h : Starts line t) : InVxidRange t.vxid := by
  obtain ⟨marker, bracket, kind, closing, vxid, hwords, -⟩ := isStartLine_iff.mp h.isStart
  obtain ⟨k, n, level, -, hvxid, -, rfl⟩ := (ofStartLine_eq_ok_iff hwords).mp h.names
  exact inVxidRange_of_readVxid hvxid

namespace Block
variable {b : Block} {built : Transaction}

theorem Spells.framed {t : Transaction} {first last : Record} {rs : List Record} {parent : Edge}
    (h : b.Spells t first rs last) (hparent : first.payload = .opening parent) :
    (Builder.after t (first :: (rs ++ [last]))).transaction.Framed first rs last parent := by
  obtain ⟨vxid, kind, level, rfl⟩ := h.start.exists_started
  obtain ⟨c, hrun, hc, -⟩ := h.builtFrom
  rw [← hc]
  obtain ⟨first', rest, parent', heq, hparent', hopening⟩ := Builder.apart_of_run Transaction.apart_opening hrun
  obtain ⟨rfl, -⟩ := List.cons.inj heq
  obtain rfl := Payload.opening.inj (hparent.symm.trans hparent')
  have hvxid : c.transaction.vxid = vxid := congrArg Opening.vxid hopening
  have htxid : c.transaction.txid = txidOf vxid parent.kind parent.esiLevel := congrArg Opening.txid hopening
  exact {
    records := Builder.records_of_run hrun
    opens := hparent
    plain := h.plain
    closes := h.closes
    txid := by rw [hvxid, htxid]
    parent := congrArg Opening.parent hopening }

theorem Yields.wellFormed (h : b.Yields built) : built.WellFormed := by
  obtain ⟨t, first, rs, last, hspells, rfl⟩ := h
  obtain ⟨parent, hparent⟩ := Record.exists_payload_of_opening hspells.opens
  have hframed := hspells.framed hparent
  have hvxid : (Builder.after t (first :: (rs ++ [last]))).transaction.vxid = t.vxid :=
    congrArg Heading.vxid (Builder.heading_after t _)
  have hedge : InVxidRange parent.vxid := edge?_of_fromLine ⟨_, hspells.opening⟩ (by rw [hparent]; rfl)
  obtain ⟨vxid, kind, level, rfl⟩ := hspells.start.exists_started
  obtain ⟨c, hrun, hc, -⟩ := hspells.builtFrom
  have hchildren := Builder.children_of_run hrun
  have hchild := Builder.child_of_run hrun
  rw [hc] at hchildren hchild
  refine ⟨⟨_, _, _, _, hframed⟩, hvxid ▸ hspells.start.inVxidRange, ?_, hchild, hchildren, ?_⟩
  · intro p hp
    rw [hframed.parent] at hp
    split at hp
    · cases hp
    · next hne =>
      obtain rfl := Option.some.inj hp
      exact ⟨hne, hedge⟩
  · rw [hchildren]
    exact nodup_eraseDups _

end Block

end ProxyLog

import ProxyLog.Proofs.Log.Delivery
import ProxyLog.Proofs.Transaction.Merging

/-!
# Logs behind one another

* `Failure.isAtEnd e`: the failure is that a log ends inside a transaction.
* `readLines_append_of_ok`, `readLines_append_of_error`: a log behind one that is read, and behind one that
  is not.
* `readLines_append`: the two together.
-/

set_option autoImplicit false

namespace ProxyLog

/-- The log ends after a start line or inside a transaction. -/
def Failure.isAtEnd : Failure → Bool
  | malformed (.beginMissing _) | malformed (.endMissing _) => true
  | _ => false

variable {maxDepth : Int} {front : List String}

/-- Behind a log that is read, another one is read as if it stood alone, but into the same set. -/
theorem readLines_append_of_ok {a : TransactionSet} (ha : (readLines maxDepth front).result = .ok a)
    (back : List String) :
    (readLines maxDepth (front ++ back)).result =
      (readLines maxDepth back).result.map fun b => a.addAll b.toList := by
  obtain ⟨txs, hfront, rfl⟩ := readLines_eq_ok_iff.mp ha
  rw [readLines_eq_deliverAll, readLines_eq_deliverAll, List.map_append, Phase.deliverAll_append_of_ok hfront]
  cases Phase.between.deliverAll (back.map Text.strip) with
  | error e => rfl
  | ok d =>
    obtain ⟨others, phase⟩ := d
    cases phase with
    | started t => rfl
    | inside b => rfl
    | between =>
      have hmerged : (TransactionSet.ofList maxDepth txs).addAll (TransactionSet.ofList maxDepth others).toList =
          .ofList maxDepth (txs ++ others) := by
        rw [TransactionSet.addAll_toList_ofList (TransactionSet.filed_ofList maxDepth txs).nodup,
          TransactionSet.ofList_append]
      exact congrArg Except.ok hmerged.symm

/-- Lines that end inside a transaction fail at their end, and nowhere before. -/
theorem Delivery.isAtEnd_of_close {d : Delivery} {e : Failure} (h : d.close maxDepth = .error e) :
    e.isAtEnd = true := by
  obtain ⟨txs, phase⟩ := d
  cases phase <;> cases h <;> rfl

/-- A failure that is not about the end stays, whatever follows. -/
theorem readLines_append_of_error {e : Failure} (h : (readLines maxDepth front).result = .error e)
    (hend : e.isAtEnd = false) (back : List String) :
    (readLines maxDepth (front ++ back)).result = .error e := by
  rw [readLines_eq_deliverAll] at h ⊢
  cases hfront : Phase.between.deliverAll (front.map Text.strip) with
  | error e' =>
    rw [hfront] at h
    cases h
    rw [List.map_append, Phase.deliverAll_append_of_error hfront]
    rfl
  | ok d =>
    rw [hfront] at h
    rw [Delivery.isAtEnd_of_close h] at hend
    cases hend

/-- Behind a log that is read, another log fails as it does alone, or its transactions are put into the set.
A failure within a log stays with everything that follows. -/
theorem readLines_append (maxDepth : Int) (front back : List String) :
    (∀ a, (readLines maxDepth front).result = .ok a →
      (∀ e, (readLines maxDepth back).result = .error e →
        (readLines maxDepth (front ++ back)).result = .error e) ∧
      ∀ b, (readLines maxDepth back).result = .ok b →
        ∃ c, (readLines maxDepth (front ++ back)).result = .ok c ∧ TransactionSet.Merges a b c) ∧
    ∀ e, (readLines maxDepth front).result = .error e → e.isAtEnd = false →
      (readLines maxDepth (front ++ back)).result = .error e := by
  refine ⟨fun a ha => ⟨fun e he => ?_, fun b hb => ?_⟩, fun e he hend => readLines_append_of_error he hend back⟩
  · rw [readLines_append_of_ok ha, he]
    rfl
  · obtain ⟨txs, -, rfl⟩ := readLines_eq_ok_iff.mp hb
    refine ⟨a.addAll (TransactionSet.ofList maxDepth txs).toList, ?_, ?_⟩
    · rw [readLines_append_of_ok ha, hb]
      rfl
    · exact TransactionSet.merges_addAll a (TransactionSet.filed_ofList maxDepth txs)

def pairLines : List String :=
  ["**  << Request  >> 2", "--  Begin  req 1 rxreq", "--  End",
   "**  << Request  >> 4", "--  Begin  req 1 rxreq", "--  End"]

/-- A new transaction, and the first one of the pair once more, with a header. -/
def againLines : List String :=
  ["**  << Request  >> 3", "--  Begin  req 1 rxreq", "--  End",
   "**  << Request  >> 2", "--  Begin  req 1 restart", "--  ReqHeader  Via: a", "--  End"]

/-- A transaction that does not open. -/
def unopenedLines : List String := ["**  << Request  >> 2", "--  ReqURL  /", "--  End"]

theorem readLines_append_again : ∃ a b c e,
    (readLines 100 pairLines).result = .ok a ∧ (readLines 100 againLines).result = .ok b ∧
      (readLines 100 unopenedLines).result = .error e ∧ e.isAtEnd = false ∧
        (readLines 100 (pairLines ++ againLines)).result = .ok c ∧ TransactionSet.Merges a b c ∧
          (a.toList.map (·.vxid) = [2, 4] ∧ b.toList.map (·.vxid) = [3, 2] ∧ c.toList.map (·.vxid) = [2, 4, 3]) ∧
          ((a.get? 2).map (·.reason) = some "rxreq" ∧
            (c.get? 2).map (fun t => (t.reason, t.requestHeaders.names)) = some ("restart", ["Via"])) ∧
          (readLines 100 (pairLines ++ unopenedLines)).result = .error e ∧
            (readLines 100 (unopenedLines ++ pairLines)).result = .error e := by
  obtain ⟨a, ha⟩ : ∃ a, (readLines 100 pairLines).result = .ok a := ⟨_, rfl⟩
  obtain ⟨b, hb⟩ : ∃ b, (readLines 100 againLines).result = .ok b := ⟨_, rfl⟩
  have he : (readLines 100 unopenedLines).result = .error (.malformed (.beginExpected "ReqURL" "--  ReqURL  /")) := rfl
  obtain ⟨c, hc, hmerges⟩ := ((readLines_append 100 pairLines againLines).1 a ha).2 b hb
  have hvxids : a.toList.map (·.vxid) = [2, 4] ∧ b.toList.map (·.vxid) = [3, 2] ∧
      c.toList.map (·.vxid) = [2, 4, 3] :=
    ⟨Outcome.eq_of_result (·.toList.map (·.vxid)) ha rfl, Outcome.eq_of_result (·.toList.map (·.vxid)) hb rfl,
      Outcome.eq_of_result (·.toList.map (·.vxid)) hc rfl⟩
  have htwo : (a.get? 2).map (·.reason) = some "rxreq" ∧
      (c.get? 2).map (fun t => (t.reason, t.requestHeaders.names)) = some ("restart", ["Via"]) :=
    ⟨Outcome.eq_of_result (fun ts => (ts.get? 2).map (·.reason)) ha rfl,
      Outcome.eq_of_result (fun ts => (ts.get? 2).map fun t => (t.reason, t.requestHeaders.names)) hc rfl⟩
  exact ⟨a, b, c, _, ha, hb, he, rfl, hc, hmerges, hvxids, htwo,
    ((readLines_append 100 pairLines unopenedLines).1 a ha).1 _ he,
    (readLines_append 100 unopenedLines pairLines).2 _ he rfl⟩

end ProxyLog

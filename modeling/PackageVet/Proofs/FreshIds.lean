import Mathlib.Data.List.Nodup
import Mathlib.Data.Nat.ModEq
import PackageVet.CodeGraph

/-! Fresh ids.

A graph of code hands out ids that count on from its greatest one, in machine words: `n` of them are
different from each other just when there are that many words (`nodup_freshIds`), and until the
words have run out each is greater than all ids of the graph (`lt_of_mem_freshIds`). -/
namespace PackageVet.CodeGraph

/-- The ids that a graph hands out one after another, and the graph that has handed them out. -/
def freshIds : Nat → CodeGraph → List NodeId × CodeGraph
  | 0, g => ([], g)
  | n + 1, g =>
    let rest := freshIds n g.freshId.2
    (g.freshId.1 :: rest.1, rest.2)

theorem freshIds_add (m n : Nat) (g : CodeGraph) :
    g.freshIds (m + n) =
      ((g.freshIds m).1 ++ ((g.freshIds m).2.freshIds n).1, ((g.freshIds m).2.freshIds n).2) := by
  induction m generalizing g with
  | zero => simp [freshIds]
  | succ m ih =>
    rw [Nat.add_right_comm]
    simp [freshIds, ih]

/-- The `k`th id after a number, in machine words. -/
def idAfter (last k : Nat) : Nat := (last + 1 + k) % (Text.wordMax + 1)

/-- The ids count on from the greatest one, and from nought after the last word. -/
theorem freshIds_eq (n : Nat) (g : CodeGraph) :
    (g.freshIds n).1 = (List.range n).map (idAfter g.lastId) := by
  induction n generalizing g with
  | zero => rfl
  | succ n ih =>
    rw [List.range_succ_eq_map, List.map_cons, List.map_map]
    show g.freshId.1 :: (g.freshId.2.freshIds n).1 = _
    rw [ih]
    refine congrArg₂ List.cons rfl (List.map_congr_left fun k _ => ?_)
    show ((g.lastId + 1) % (Text.wordMax + 1) + 1 + k) % (Text.wordMax + 1) =
      (g.lastId + 1 + (k + 1)) % (Text.wordMax + 1)
    rw [Nat.add_assoc, Nat.mod_add_mod, Nat.add_comm 1 k]

theorem length_freshIds (n : Nat) (g : CodeGraph) : (g.freshIds n).1.length = n := by
  simp [freshIds_eq]

theorem nodup_freshIds (n : Nat) (g : CodeGraph) :
    (g.freshIds n).1.Nodup ↔ n ≤ Text.wordMax + 1 := by
  rw [freshIds_eq, List.nodup_map_iff_inj_on List.nodup_range]
  simp only [List.mem_range, idAfter, Text.wordMax]
  constructor
  · intro hinj
    by_contra hmany
    -- the id after all words have been taken is the first one again
    have hsame := hinj 0 (by omega) (18446744073709551615 + 1) (by omega)
      (Nat.add_mod_right _ _).symm
    omega
  · intro hroom k hk l hl hsame
    have hmod : k ≡ l [MOD 18446744073709551615 + 1] := Nat.ModEq.add_left_cancel' _ hsame
    exact hmod.eq_of_lt_of_lt (by omega) (by omega)

theorem lt_of_mem_freshIds {n : Nat} {g : CodeGraph} {id : NodeId}
    (hroom : n + g.lastId ≤ Text.wordMax) (h : id ∈ (g.freshIds n).1) : g.lastId < id := by
  rw [freshIds_eq] at h
  obtain ⟨k, hk, rfl⟩ := List.mem_map.mp h
  rw [List.mem_range] at hk
  show g.lastId < (g.lastId + 1 + k) % (Text.wordMax + 1)
  rw [Nat.mod_eq_of_lt (by omega), Nat.add_assoc]
  exact Nat.lt_add_of_pos_right (by omega)

end PackageVet.CodeGraph

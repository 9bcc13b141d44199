import MiniSql.Text.Cluster

/-!
# Backspaces

A backspace in a text erases the cluster before it. Backspaces at the beginning, where there
is nothing to erase, are dropped.

**Results.** A text without backspaces stays as it is.
-/

namespace MiniSql.Text

/-- The character that erases. -/
def backspace : Char := '\x08'

/-- The clusters that are left, the last one first, when one more follows: a backspace takes
one away. -/
def keepCluster (kept : List (List Char)) (cluster : List Char) : List (List Char) :=
  if cluster = [backspace] then kept.drop 1 else cluster :: kept

/-- A text after its backspaces have erased what they stand behind. -/
def eraseBackspaces (cs : List Char) : List Char :=
  ((clusters cs).foldl keepCluster []).reverse.flatten

/-- Clusters other than a backspace are kept. -/
theorem foldl_keepCluster {ks : List (List Char)} (h : [backspace] ∉ ks)
    (kept : List (List Char)) : ks.foldl keepCluster kept = ks.reverse ++ kept := by
  induction ks generalizing kept with
  | nil => rfl
  | cons k ks ih =>
    rw [List.mem_cons, not_or] at h
    have hk : k ≠ [backspace] := fun e => h.1 e.symm
    simp [keepCluster, hk, ih h.2]

/-- A text without backspaces stays as it is. -/
theorem eraseBackspaces_of_not_mem {cs : List Char} (h : backspace ∉ cs) :
    eraseBackspaces cs = cs := by
  have hk : [backspace] ∉ clusters cs := by
    intro hmem
    apply h
    rw [← flatten_clusters cs]
    exact List.mem_flatten_of_mem hmem List.mem_cons_self
  rw [eraseBackspaces, foldl_keepCluster hk, List.append_nil, List.reverse_reverse,
    flatten_clusters]

@[simp] theorem eraseBackspaces_nil : eraseBackspaces [] = [] := rfl

end MiniSql.Text

/-!
# The partition point of an array

For an array whose first elements satisfy a test and whose other elements do not, binary search
finds the number of the first ones (`partitionPoint_eq`).
-/

namespace Highlighter

def partitionPointIn {α : Type} (test : α → Bool) (items : Array α) (low high : Nat)
    (hhigh : high ≤ items.size) : Nat :=
  if _ : low < high then
    let middle := low + (high - low) / 2
    have hmiddle : middle < items.size := by omega
    if test items[middle] then partitionPointIn test items (middle + 1) high hhigh
    else partitionPointIn test items low middle (by omega)
  else low
termination_by high - low

/-- The number of elements before the first one that fails the test, provided that all elements
after it fail the test too. -/
def partitionPoint {α : Type} (test : α → Bool) (items : Array α) : Nat :=
  partitionPointIn test items 0 items.size (Nat.le_refl _)

theorem partitionPointIn_eq {α : Type} {test : α → Bool} {items : Array α} {count : Nat}
    (hbefore : ∀ index item, items[index]? = some item → index < count → test item = true)
    (hafter : ∀ index item, items[index]? = some item → count ≤ index → test item = false)
    {low high : Nat} (hlow : low ≤ count) (hcount : count ≤ high) (hhigh : high ≤ items.size) :
    partitionPointIn test items low high hhigh = count := by
  fun_induction partitionPointIn test items low high hhigh with
  | case1 low high hhigh hlt middle hin htest ih =>
    refine ih ?_ hcount
    by_cases hmiddle : count ≤ middle
    · have hfails := hafter middle _ (Array.getElem?_eq_getElem hin) hmiddle
      simp [hfails] at htest
    · omega
  | case2 low high hhigh hlt middle hin htest ih =>
    refine ih hlow ?_
    by_cases hmiddle : middle < count
    · exact absurd (hbefore middle _ (Array.getElem?_eq_getElem hin) hmiddle) htest
    · omega
  | case3 low high hhigh hlt => omega

/-- The partition point is the count that separates the elements that satisfy the test. -/
theorem partitionPoint_eq {α : Type} {test : α → Bool} {items : Array α} {count : Nat}
    (hcount : count ≤ items.size)
    (hbefore : ∀ index item, items[index]? = some item → index < count → test item = true)
    (hafter : ∀ index item, items[index]? = some item → count ≤ index → test item = false) :
    partitionPoint test items = count :=
  partitionPointIn_eq hbefore hafter (Nat.zero_le _) hcount (Nat.le_refl _)

/-- The element at the partition point fails the test, whatever the order of the elements. -/
theorem partitionPointIn_fails {α : Type} {test : α → Bool} {items : Array α} {low high : Nat}
    (hhigh : high ≤ items.size) (hle : low ≤ high)
    (hfails : ∀ item, items[high]? = some item → test item = false) {item : α}
    (h : items[partitionPointIn test items low high hhigh]? = some item) : test item = false := by
  fun_induction partitionPointIn test items low high hhigh with
  | case1 low high hhigh hlt middle hin htest ih => exact ih (by omega) hfails h
  | case2 low high hhigh hlt middle hin htest ih =>
    refine ih (by omega) ?_ h
    intro found hfound
    rw [Array.getElem?_eq_getElem hin] at hfound
    rw [← Option.some.inj hfound]
    simpa using htest
  | case3 low high hhigh hlt =>
    obtain rfl : low = high := by omega
    exact hfails item h

theorem partitionPoint_fails {α : Type} {test : α → Bool} {items : Array α} {item : α}
    (h : items[partitionPoint test items]? = some item) : test item = false :=
  partitionPointIn_fails (Nat.le_refl _) (Nat.zero_le _) (by simp) h

end Highlighter

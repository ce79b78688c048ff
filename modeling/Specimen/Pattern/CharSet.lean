import Specimen.Pattern.Unicode

/-!
# Specimen.Pattern.CharSet

Sets of characters as ranges of code points, first and last included, which are disjoint, in
increasing order and as few as possible. The surrogates belong to no set, so every set can
be counted and its characters can be reached by their position (`CharSet.get?`).
-/

namespace Specimen.Pattern

/-- The last code point. -/
def maxCode : Nat := 0x10FFFF

/-- There are code points in a range, and each of them is that of a character. -/
def IsScalarRange (range : Nat × Nat) : Prop :=
  range.1 ≤ range.2 ∧ (range.2 ≤ 0xD7FF ∨ (0xE000 ≤ range.1 ∧ range.2 ≤ maxCode))

/-- A set of characters. -/
structure CharSet where
  /-- The ranges of its code points. -/
  ranges : List (Nat × Nat)
  scalar : ∀ range ∈ ranges, IsScalarRange range
  deriving DecidableEq

namespace CharSet

/-- Adds a range behind all the ranges so far, which are in reverse order. -/
def append (ranges : List (Nat × Nat)) (range : Nat × Nat) : List (Nat × Nat) :=
  match ranges with
  | (first, last) :: rest =>
    if range.1 ≤ last + 1 then (first, max last range.2) :: rest else range :: ranges
  | [] => [range]

theorem isScalarRange_of_mem_append {ranges : List (Nat × Nat)} {range : Nat × Nat}
    (h : ∀ r ∈ ranges, IsScalarRange r) (hr : IsScalarRange range) :
    ∀ r ∈ append ranges range, IsScalarRange r := by
  unfold append
  split
  · rename_i first last rest
    obtain ⟨hhead, hrest⟩ := List.forall_mem_cons.mp h
    split
    · refine List.forall_mem_cons.mpr ⟨?_, hrest⟩
      simp only [IsScalarRange] at hhead hr ⊢
      omega
    · exact List.forall_mem_cons.mpr ⟨hr, h⟩
  · exact List.forall_mem_cons.mpr ⟨hr, h⟩

/-- The same code points in as few ranges as possible, in increasing order. -/
def join (ranges : List (Nat × Nat)) : List (Nat × Nat) :=
  ((ranges.mergeSort fun a b => a.1 ≤ b.1).foldl append []).reverse

theorem isScalarRange_of_mem_join {ranges : List (Nat × Nat)}
    (h : ∀ r ∈ ranges, IsScalarRange r) : ∀ r ∈ join ranges, IsScalarRange r := by
  intro r hr
  refine List.foldlRecOn _ append (motive := fun joined => ∀ r ∈ joined, IsScalarRange r)
    (fun r hr => absurd hr List.not_mem_nil) (fun joined hjoined range hrange => ?_) r
    (List.mem_reverse.mp hr)
  exact isScalarRange_of_mem_append hjoined (h range (List.mem_mergeSort.mp hrange))

/-- The code points of a range that are those of characters. -/
def scalars (range : Nat × Nat) : List (Nat × Nat) :=
  [(range.1, min range.2 0xD7FF), (max range.1 0xE000, min range.2 maxCode)].filter
    fun (first, last) => first ≤ last

theorem isScalarRange_of_mem_scalars {range : Nat × Nat} :
    ∀ r ∈ scalars range, IsScalarRange r := by
  intro r hr
  obtain ⟨hr, hle⟩ := List.mem_filter.mp hr
  replace hle : r.1 ≤ r.2 := of_decide_eq_true hle
  refine ⟨hle, ?_⟩
  rcases List.mem_cons.mp hr with rfl | hr
  · exact .inl (Nat.min_le_right _ _)
  · obtain rfl := List.mem_singleton.mp hr
    exact .inr ⟨Nat.le_max_right _ _, Nat.min_le_right _ _⟩

/-- The characters whose code points lie in some range. -/
def ofRanges (ranges : List (Nat × Nat)) : CharSet :=
  ⟨join (ranges.flatMap scalars), isScalarRange_of_mem_join fun r hr =>
    have ⟨_, _, hscalar⟩ := List.mem_flatMap.mp hr
    isScalarRange_of_mem_scalars r hscalar⟩

/-- No character. -/
def empty : CharSet := ⟨[], fun _ h => absurd h List.not_mem_nil⟩

instance : Inhabited CharSet := ⟨empty⟩

theorem isScalarRange_char (c : Char) : IsScalarRange (c.toNat, c.toNat) := by
  refine ⟨Nat.le_refl _, ?_⟩
  have hvalid : c.toNat < 0xD800 ∨ (0xDFFF < c.toNat ∧ c.toNat < 0x110000) := c.valid
  simp only [maxCode]
  omega

/-- One character. -/
def singleton (c : Char) : CharSet :=
  ⟨[(c.toNat, c.toNat)], List.forall_mem_singleton.mpr (isScalarRange_char c)⟩

/-- The characters of either set. -/
def union (a b : CharSet) : CharSet := ofRanges (a.ranges ++ b.ranges)

/-- The characters of both sets. -/
def inter (a b : CharSet) : CharSet :=
  ofRanges (a.ranges.flatMap fun x => (b.ranges.map fun y => (max x.1 y.1, min x.2 y.2)).filter
    fun (first, last) => first ≤ last)

/-- The ranges between the given ones, from `start` on. -/
def gaps (start : Nat) : List (Nat × Nat) → List (Nat × Nat)
  | [] => if start ≤ maxCode then [(start, maxCode)] else []
  | (first, last) :: rest =>
    (if start < first then [(start, first - 1)] else []) ++ gaps (last + 1) rest

/-- The characters outside a set. -/
def compl (set : CharSet) : CharSet := ofRanges (gaps 0 set.ranges)

/-- The characters of the first set outside the second. -/
def diff (a b : CharSet) : CharSet := a.inter b.compl

/-- The characters of exactly one of the sets. -/
def symmDiff (a b : CharSet) : CharSet := (a.union b).diff (a.inter b)

/-- Whether a character belongs to a set. -/
def contains (set : CharSet) (c : Char) : Bool :=
  set.ranges.any fun (first, last) => first ≤ c.toNat && c.toNat ≤ last

/-- How many characters a set has. -/
def size (set : CharSet) : Nat :=
  set.ranges.foldl (fun count (first, last) => count + (last + 1 - first)) 0

/-- The character at a position of the ranges. -/
def getFrom? : List (Nat × Nat) → Nat → Option Char
  | [], _ => none
  | (first, last) :: rest, index =>
    if index < last + 1 - first then some (Char.ofNat (first + index))
    else getFrom? rest (index - (last + 1 - first))

/-- The character at a position of a set, in increasing order. -/
def get? (set : CharSet) (index : Nat) : Option Char := getFrom? set.ranges index

/-- The only character of a set. -/
def only? (set : CharSet) : Option Char :=
  match set.ranges with
  | [(first, last)] => if first = last then some (Char.ofNat first) else none
  | _ => none

/-- The members of the progression `first, first + step, …, last` that lie in a range. -/
def progression (first last step : Nat) (range : Nat × Nat) : List Nat :=
  let skipped := (range.1 - first + step - 1) / step
  let start := first + skipped * step
  let stop := min range.2 last
  (List.range ((stop + step - start) / step)).map fun i => start + i * step

/-- A set together with the partners of its characters in some pairs of ranges: the first and the
last code point of a range, the step inside it and the distance to its partner. -/
def addPartners (pairs : List (Nat × Nat × Nat × Nat)) (set : CharSet) : CharSet :=
  let partners := pairs.flatMap fun (first, last, step, distance) =>
    set.ranges.flatMap fun range =>
      (progression first last step range).map (· + distance) ++
        (progression (first + distance) (last + distance) step range).map (· - distance)
  ofRanges (set.ranges ++ partners.map fun code => (code, code))

/-- A set together with the characters that differ from its own in case only. -/
def foldCase (set : CharSet) : CharSet := set.addPartners Unicode.casePairs

/-- As `foldCase`, for the letters of ASCII. -/
def foldAsciiCase (set : CharSet) : CharSet := set.addPartners [(0x41, 0x5A, 1, 0x20)]

/-! ### Named sets -/

/-- The decimal digits. -/
def decimalDigits : CharSet := ofRanges Unicode.decimalDigits

/-- White space. -/
def whiteSpace : CharSet := ofRanges Unicode.whiteSpace

/-- The characters of words. -/
def wordChars : CharSet := ofRanges Unicode.wordChars

/-- The decimal digits of ASCII. -/
def asciiDigits : CharSet := ofRanges [(0x30, 0x39)]

/-- The white space of ASCII. -/
def asciiWhiteSpace : CharSet := ofRanges [(0x9, 0xD), (0x20, 0x20)]

/-- The characters of words of ASCII. -/
def asciiWordChars : CharSet := ofRanges [(0x30, 0x39), (0x41, 0x5A), (0x5F, 0x5F), (0x61, 0x7A)]

/-- The sets with names in brackets, of ASCII characters. -/
def named? : String → Option CharSet
  | "alnum" => some (ofRanges [(0x30, 0x39), (0x41, 0x5A), (0x61, 0x7A)])
  | "alpha" => some (ofRanges [(0x41, 0x5A), (0x61, 0x7A)])
  | "ascii" => some (ofRanges [(0, 0x7F)])
  | "blank" => some (ofRanges [(0x9, 0x9), (0x20, 0x20)])
  | "cntrl" => some (ofRanges [(0, 0x1F), (0x7F, 0x7F)])
  | "digit" => some asciiDigits
  | "graph" => some (ofRanges [(0x21, 0x7E)])
  | "lower" => some (ofRanges [(0x61, 0x7A)])
  | "print" => some (ofRanges [(0x20, 0x7E)])
  | "punct" => some (ofRanges [(0x21, 0x2F), (0x3A, 0x40), (0x5B, 0x60), (0x7B, 0x7E)])
  | "space" => some asciiWhiteSpace
  | "upper" => some (ofRanges [(0x41, 0x5A)])
  | "word" => some asciiWordChars
  | "xdigit" => some (ofRanges [(0x30, 0x39), (0x41, 0x46), (0x61, 0x66)])
  | _ => none

end CharSet

end Specimen.Pattern

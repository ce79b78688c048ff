import Specimen.Proofs.Provider.Bundled

/-!
# Specimen.Proofs.Provider.Sized

Texts with a chosen length (`provideWithin_sized`).

Some texts are made of groups of characters of one size (`groupSize?`). Whether a number of characters
between two bounds is made of whole groups can be told from the numbers of groups that the bounds
allow (`isGrouped_mul_iff`), and it is from those that one is drawn.
-/

namespace Specimen.Provider.Bundled

open Specimen.Random

variable {size lo hi groups : Nat}

/-! ### Whole groups -/

/-- A number of characters lies between two bounds and is made of whole groups. -/
structure IsGrouped (size lo hi length : Nat) : Prop where
  least : lo ≤ length
  greatest : length ≤ hi
  whole : size ∣ length

/-- The lower bound is rounded up to a number of groups and the upper one is rounded down. -/
theorem isGrouped_mul_iff (hs : 0 < size) :
    IsGrouped size lo hi (size * groups) ↔ (lo + (size - 1)) / size ≤ groups ∧ groups ≤ hi / size := by
  rw [Nat.div_le_iff_le_mul_add_pred hs, Nat.le_div_iff_mul_le hs, Nat.mul_comm groups size]
  constructor
  · intro h
    exact ⟨Nat.add_le_add_right h.least (size - 1), h.greatest⟩
  · intro ⟨hleast, hgreatest⟩
    exact ⟨Nat.le_of_add_le_add_right hleast, hgreatest, Nat.dvd_mul_right size groups⟩

theorem exists_isGrouped_iff (hs : 0 < size) :
    (∃ length, IsGrouped size lo hi length) ↔ (lo + (size - 1)) / size ≤ hi / size := by
  constructor
  · intro ⟨length, h⟩
    obtain ⟨groups, rfl⟩ := h.whole
    have ⟨hleast, hgreatest⟩ := (isGrouped_mul_iff hs).mp h
    exact Nat.le_trans hleast hgreatest
  · intro h
    exact ⟨_, (isGrouped_mul_iff hs).mpr ⟨h, Nat.le_refl (hi / size)⟩⟩

/-! ### Lengths of what is encoded -/

theorem base64_length (bytes : List UInt8) :
    (base64 bytes).length = 4 * ((bytes.length + 2) / 3) := by
  fun_induction base64 bytes with
  | case1 a b c rest bits ih =>
    simp only [List.length_cons, ih]
    omega
  | case2 | case3 | case4 => simp only [List.length_cons, List.length_nil]

theorem hex_length (bytes : List UInt8) : (hex bytes).length = 2 * bytes.length := by
  unfold hex
  induction bytes with
  | nil => rfl
  | cons byte rest ih =>
    rw [List.flatMap_cons, List.length_append, ih, List.length_cons]
    show 2 + 2 * rest.length = 2 * (rest.length + 1)
    omega

/-! ### Texts with a chosen length -/

/-- The number of characters in a group, for the hints whose texts can have a chosen length. -/
def groupSize? : Hint → Option Nat
  | .password => some 1
  | .byte => some 4
  | .binary => some 2
  | _ => none

/-- A text is made of whole groups and its length lies between two bounds; there is none if and only if
no length does. -/
structure IsSized (size lo hi : Nat) (text? : Option String) : Prop where
  grouped : ∀ text ∈ text?, IsGrouped size lo hi text.length
  missing_iff : text? = none ↔ ¬∃ length, IsGrouped size lo hi length

theorem isSized_none (hs : 0 < size) (h : hi / size < (lo + (size - 1)) / size) :
    IsSized size lo hi none where
  grouped text htext := absurd htext (Option.not_mem_none text)
  missing_iff := by
    rw [exists_isGrouped_iff hs]
    exact iff_of_true rfl (Nat.not_le.mpr h)

theorem isSized_some {text : String} (h : IsGrouped size lo hi text.length) :
    IsSized size lo hi (some text) where
  grouped _ hother := Option.some.inj hother ▸ h
  missing_iff := iff_of_false (Option.some_ne_none text) fun hnone => hnone ⟨_, h⟩

/-- A text that is made of a number of groups which the bounds allow. -/
theorem isSized_ofList {chars : List Char} (hs : 0 < size) (hlength : chars.length = size * groups)
    (hgroups : (lo + (size - 1)) / size ≤ groups ∧ groups ≤ hi / size) :
    IsSized size lo hi (some (String.ofList chars)) := by
  refine isSized_some ?_
  rw [String.length_ofList, hlength]
  exact (isGrouped_mul_iff hs).mpr hgroups

variable {σ : Type} [Source σ]

theorem yields_drawBytes_length (lo hi : Nat) :
    Yields (drawBytes lo hi : Draw σ (List UInt8)) fun bytes =>
      lo ≤ bytes.length ∧ bytes.length ≤ hi := by
  refine (yields_size lo hi).bind fun count => (yields_bytes_length count).mono ?_
  rintro bytes rfl hcount
  exact hcount

theorem yields_drawPassword_length (length : Nat) :
    Yields (drawPassword length (length + 1) : Draw σ String) (·.length = length) := by
  have hchars (count : Nat) :
      Yields (drawPasswordChars count : Draw σ (List Char)) (·.length = count) := by
    induction count with
    | zero => exact ends_pure rfl
    | succ count ih =>
      refine (yields_any (choose passwordLetters)).andThen fun first => ih.bind fun rest => ?_
      exact ends_pure fun hrest => congrArg (· + 1) hrest
  refine (yields_sizeBefore length (length + 1)).bind fun count => (hchars count).bind fun chars => ?_
  refine ends_pure fun hlength hcount => ?_
  rw [String.length_ofList]
  omega

variable {hint : Hint} {format : String} (locale : Locale)

theorem yields_sizedText (hsize : groupSize? hint = some size) :
    Yields (sizedText locale hint lo hi : Draw σ (Option String)) (IsSized size lo hi) := by
  unfold groupSize? at hsize
  split at hsize
  · obtain rfl := Option.some.inj hsize
    refine (yields_size lo hi).bind fun length => ?_
    refine (yields_sizeAfter length).bind_of fun stop hstop => ?_
    subst hstop
    refine (yields_drawPassword_length length).bind fun text => ends_pure ?_
    rintro rfl ⟨hleast, hgreatest⟩
    exact isSized_some ⟨hleast, hgreatest, Nat.one_dvd _⟩
  · obtain rfl := Option.some.inj hsize
    unfold sizedText
    dsimp only
    split
    · rename_i hnone
      exact ends_pure (isSized_none (by decide) hnone)
    · -- Whole groups of three bytes are drawn, so nothing is filled up.
      refine (yields_size _ _).bind fun groups => (yields_drawBytes_length _ _).bind fun bytes => ?_
      refine ends_pure fun hbytes hgroups => isSized_ofList (by decide) ?_ hgroups
      rw [base64_length]
      omega
  · obtain rfl := Option.some.inj hsize
    unfold sizedText
    dsimp only
    split
    · rename_i hnone
      exact ends_pure (isSized_none (by decide) hnone)
    · refine (yields_drawBytes_length _ _).bind fun bytes => ends_pure fun hbytes => ?_
      exact isSized_ofList (by decide) (hex_length bytes) hbytes
  · cases hsize

/-- What is given for a known hint and bounds that are in order. -/
theorem provideWithin_bundled (hparse : Hint.parse? format = some hint) (h : lo ≤ hi) :
    (bundled locale : Provider σ).provideWithin format lo hi =
      do return (← sizedText locale hint lo hi).map .str := by
  unfold bundled
  dsimp only
  rw [hparse]
  exact if_neg (Nat.not_lt.mpr h)

theorem provideTextWithin_bundled (hparse : Hint.parse? format = some hint) (h : lo ≤ hi) :
    (bundled locale : Provider σ).provideTextWithin format lo hi = sizedText locale hint lo hi := by
  unfold provideTextWithin
  rw [provideWithin_bundled locale hparse h, bind_assoc]
  have htext (text? : Option String) : (text?.map Json.str).map textOf = text? := by
    cases text? <;> rfl
  simp only [pure_bind, htext, bind_pure]

/-- A text whose length can be chosen has one between the bounds, unless there is none of whole
groups. -/
theorem provideWithin_sized (hparse : Hint.parse? format = some hint)
    (hsize : groupSize? hint = some size) (h : lo ≤ hi) (hhi : hi < maxSize) (source : σ) :
    ∃ text? after, (bundled locale : Provider σ).provideWithin format lo hi source =
      (.ok (text?.map .str), after) ∧ IsSized size lo hi text? := by
  obtain ⟨text?, after, hdraw, hsized⟩ :=
    exists_of_total (total_sizedText locale hint h hhi) (yields_sizedText locale hsize) source
  refine ⟨text?, after, ?_, hsized⟩
  rw [provideWithin_bundled locale hparse h, bind_apply, hdraw]
  rfl

end Specimen.Provider.Bundled

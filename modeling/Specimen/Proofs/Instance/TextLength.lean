import Specimen.Proofs.Constraint.Settled
import Specimen.Proofs.Instance.Faultless
import Specimen.Proofs.Instance.Recording
import Specimen.Proofs.PlainText
import Specimen.Proofs.Report

/-!
# Specimen.Proofs.Instance.TextLength

The lengths of strings (`string_length`).

There always are lengths to choose from (`Constraints.IsSettledFor.exists_lengthBounds`). A text for a
format or for a hint has one of them, and so has a text without a meaning, which takes the place of
one that has not; only a text for a pattern stays as it is, and then the report tells of it
(`RelaxesLength`).
-/

namespace Specimen

namespace Constraints

variable {set : Constraints}

/-- The number of characters lies between the bounds for it. -/
structure AdmitsLength (set : Constraints) (length : Nat) : Prop where
  least : ∀ limit ∈ set.minLength, limit ≤ length
  greatest : ∀ limit ∈ set.maxLength, length ≤ limit

theorem stringConflict?_eq_none_iff : set.stringConflict? = none ↔
    ∀ least ∈ set.minLength, ∀ greatest ∈ set.maxLength, least ≤ greatest := by
  unfold stringConflict?
  cases set.minLength <;> cases set.maxLength <;> simp

/-- For settled demands there are lengths to choose from, whatever the options are, and all of them
are admitted. -/
theorem IsSettledFor.exists_lengthBounds (h : set.IsSettledFor .string) (fallback : Nat × Nat) :
    ∃ lo hi, Instance.lengthBounds set fallback = .ok (lo, hi) ∧ lo ≤ hi ∧
      ∀ length, lo ≤ length → length ≤ hi → set.AdmitsLength length := by
  have hordered := stringConflict?_eq_none_iff.mp h.conflict?_eq_none
  unfold Instance.lengthBounds
  dsimp only
  cases hleast : set.minLength with
  | none =>
    refine ⟨_, _, if_neg (Nat.not_lt_zero _), Nat.min_le_right _ _, fun length _ hle => ?_⟩
    refine ⟨by simp [hleast], fun limit hlimit => ?_⟩
    rwa [Option.mem_def.mp hlimit] at hle
  | some least =>
    have hle : least ≤ set.maxLength.getD (max fallback.2 least) := by
      cases hgreatest : set.maxLength with
      | none => exact Nat.le_max_right _ _
      | some greatest => exact hordered least hleast greatest hgreatest
    refine ⟨_, _, if_neg (Nat.not_lt.mpr hle), hle, fun length hlo hhi => ?_⟩
    refine ⟨fun limit hlimit => ?_, fun limit hlimit => ?_⟩
    · obtain rfl := Option.some.inj (hleast.symm.trans hlimit)
      exact hlo
    · rwa [Option.mem_def.mp hlimit] at hhi

end Constraints

namespace Instance

variable {σ : Type} {setting : Setting σ} {set : Constraints} {lo hi : Nat}

/-- The length of a text was given up: that is all that was recorded, at a schema with a pattern that
can be drawn from. -/
structure RelaxesLength (setting : Setting σ) (set : Constraints) (before after : Report) :
    Prop where
  pattern : ∃ pattern ∈ set.pattern,
    (setting.library.samples? pattern setting.options.patternMaxRepeat).isSome = true
  recorded : ∃ message, after = before.record .patternLengthRelaxed set.pointer.text message

/-- A text, if there is one, has a length in `[lo, hi]` and no length was given up; or there is one whose
length was given up. -/
def IsMeasured (setting : Setting σ) (set : Constraints) (lo hi : Nat) (before : Report)
    (text? : Option String) (after : Report) : Prop :=
  (∀ text ∈ text?, lo ≤ text.length ∧ text.length ≤ hi) ∧
      after.count .patternLengthRelaxed = before.count .patternLengthRelaxed ∨
    text?.isSome = true ∧ RelaxesLength setting set before after

theorem fits_eq_true_iff {text : String} :
    fits text lo hi = true ↔ lo ≤ text.length ∧ text.length ≤ hi := by
  simp [fits]

/-- Without a text nothing has a length; what is recorded meanwhile is of another sort. -/
theorem leaves_record_none {code : IssueCode} (h : code ≠ .patternLengthRelaxed) (node : Pointer)
    (message : String) :
    Leaves (do record code node message; return none : Run σ (Option String))
      (IsMeasured setting set lo hi) := by
  refine (leaves_record code node message).bind fun _ => leaves_pure ?_
  rintro _ before rfl
  exact .inl ⟨fun text htext => (nomatch htext), Report.count_record_of_ne h⟩

theorem yields_drawPatterned (sample : Random.Draw σ String) (last : String) (attempts : Nat) :
    Yields (drawPatterned sample lo hi last attempts)
      fun (isFitting, text) => isFitting = true → lo ≤ text.length ∧ text.length ≤ hi := by
  induction attempts generalizing last with
  | zero => exact ends_pure fun h => nomatch h
  | succ attempts ih =>
    unfold drawPatterned
    refine (yields_any sample).andThen fun text => ?_
    split
    · exact ends_pure fun _ => fits_eq_true_iff.mp ‹_›
    · exact ih text

theorem yields_hinted (provider : Provider σ) (hint : String) (attempts : Nat) :
    Yields (hinted provider hint lo hi attempts) fun text? =>
      ∀ text ∈ text?, lo ≤ text.length ∧ text.length ≤ hi := by
  induction attempts with
  | zero => exact ends_pure fun text htext => nomatch htext
  | succ attempts ih =>
    unfold hinted
    refine (yields_any (provider.provideTextWithin hint lo hi)).andThen fun text? => ?_
    split
    · exact ends_pure fun text htext => nomatch htext
    · split
      · rename_i hfits
        exact ends_pure fun text htext => Option.some.inj htext ▸ fits_eq_true_iff.mp hfits
      · exact ih

theorem leaves_patterned (setting : Setting σ) {pattern : String}
    (h : set.pattern = some pattern) :
    Leaves (patterned setting set pattern lo hi) (IsMeasured setting set lo hi) := by
  unfold patterned
  split
  · exact leaves_record_none (by decide) _ _
  · rename_i sample hsample
    refine (leaves_draw (yields_drawPatterned sample "" setting.options.formatAttempts)).bind ?_
    intro (isFitting, text)
    cases isFitting with
    | true =>
      refine leaves_pure ?_
      rintro _ before ⟨rfl, hfits⟩
      exact .inl ⟨fun other hother => Option.some.inj hother ▸ hfits rfl, rfl⟩
    | false =>
      refine (leaves_record _ _ _).bind fun _ => leaves_pure ?_
      rintro _ _ rfl before ⟨rfl, -⟩
      exact .inr ⟨rfl, ⟨pattern, h, Option.isSome_of_mem hsample⟩, _, rfl⟩

theorem leaves_hinted (setting : Setting σ) (hint : String) (attempts : Nat) :
    Leaves (Run.draw (hinted setting.provider hint lo hi attempts)) (IsMeasured setting set lo hi) := by
  refine (leaves_draw (yields_hinted setting.provider hint attempts)).mono ?_
  rintro before text? _ ⟨rfl, hfits⟩
  exact .inl ⟨hfits, rfl⟩

theorem leaves_formatted (setting : Setting σ) (format : String) :
    Leaves (formatted setting set format lo hi) (IsMeasured setting set lo hi) := by
  unfold formatted
  split
  · refine (leaves_draw (yields_hinted setting.provider format _)).bind fun text? => ?_
    split
    · refine leaves_pure ?_
      rintro _ before ⟨rfl, hfits⟩
      exact .inl ⟨hfits, rfl⟩
    · refine Leaves.mono (?_ : Leaves _ (IsMeasured setting set lo hi)) ?_
      · exact leaves_record_none (by decide) _ _
      · rintro _ _ after hmeasured before ⟨rfl, -⟩
        exact hmeasured
  · exact leaves_record_none (by decide) _ _

theorem leaves_meaningful (setting : Setting σ) (property : Option String) :
    Leaves (meaningful setting set property lo hi) (IsMeasured setting set lo hi) := by
  unfold meaningful
  split
  · exact leaves_patterned setting ‹_›
  · exact leaves_formatted setting _
  · split
    · exact leaves_hinted setting _ _
    · exact leaves_pure fun report => .inl ⟨fun text htext => (nomatch htext), rfl⟩

variable [Random.Source σ]

/-- A text without a meaning takes the place of one that there is not. -/
theorem leaves_string {setting : Setting σ} (hordered : lo ≤ hi)
    (hbounds : lengthBounds set setting.options.stringLength = .ok (lo, hi))
    (property : Option String) :
    Leaves (string setting set property) fun before text after =>
      IsMeasured setting set lo hi before (some text) after := by
  unfold string
  rw [hbounds, check_ok_bind]
  refine (leaves_meaningful setting property).bind fun text? => ?_
  cases text? with
  | some text => exact leaves_pure fun _ _ hmeasured => hmeasured
  | none =>
    refine (leaves_draw (PlainText.yields_draw_length lo hi)).mono ?_
    rintro between text _ ⟨rfl, hlength⟩ before (⟨-, hcount⟩ | ⟨hsome, -⟩)
    · rw [Nat.max_eq_right hordered] at hlength
      exact .inl ⟨fun other hother => Option.some.inj hother ▸ hlength, hcount⟩
    · cases hsome

/-- **The length of a string.** For settled demands there is a string, and its length is admitted;
unless it is a text for a pattern that can be drawn from, which the report then tells of. There is
none only if a draw fails: one of the source of values, one of the library of regular expressions for
a pattern, or the longest text has no room. -/
theorem string_length (h : set.IsSettledFor .string) (setting : Setting σ)
    (property : Option String) (progress : Progress σ) :
    (∃ text reached, string setting set property progress = (.ok text, reached) ∧
      (set.AdmitsLength text.length ∧ reached.report.count .patternLengthRelaxed =
          progress.report.count .patternLengthRelaxed ∨
        RelaxesLength setting set progress.report reached.report)) ∨
    ∃ cause reached, string setting set property progress = (.error (.fault cause), reached) ∧
      TextFaults setting set cause := by
  obtain ⟨lo, hi, hbounds, hordered, hadmits⟩ := h.exists_lengthBounds setting.options.stringLength
  have hleaves := leaves_string hordered hbounds property progress
  have hfails := failsOnly_string_of_lengthBounds setting hbounds hordered property progress
  cases hstring : string setting set property progress with
  | mk outcome reached =>
    rw [hstring] at hleaves hfails
    cases outcome with
    | ok text =>
      refine .inl ⟨text, reached, rfl, ?_⟩
      rcases hleaves text rfl with ⟨hlength, hcount⟩ | ⟨-, hrelaxes⟩
      · have ⟨hlo, hhi⟩ := hlength text rfl
        exact .inl ⟨hadmits _ hlo hhi, hcount⟩
      · exact .inr hrelaxes
    | error failure =>
      have hfault := hfails failure rfl
      cases failure with
      | schema error => exact hfault.elim
      | fault cause => exact .inr ⟨cause, reached, rfl, hfault⟩

/-- Texts of three to five characters. -/
def threeToFive : Constraints :=
  { Constraints.any .root with kinds := .of [.string], minLength := some 3, maxLength := some 5 }

/-- Texts of at least `2 ^ 63` characters. -/
def fromHugeLength : Constraints :=
  { Constraints.any .root with kinds := .of [.string], minLength := some (2 ^ 63) }

/-- With a source of values that knows of none, a text of three to five characters is made, and no
length is given up without a pattern. For a text of at least `2 ^ 63` characters there is no room. -/
theorem string_threeToFive :
    threeToFive.IsSettledFor .string ∧ (∃ text reached,
      string ⟨.ofJson .null, .default, .ofTable [], .bundled⟩ threeToFive (some "email")
          ⟨(⟨⟩ : Random.Highest), [], 0, .start 0⟩ = (.ok text, reached) ∧
        3 ≤ text.length ∧ text.length ≤ 5) ∧
    fromHugeLength.IsSettledFor .string ∧
      (string ⟨.ofJson .null, .default, .ofTable [], .bundled⟩ fromHugeLength none
        ⟨(⟨⟩ : Random.Highest), [], 0, .start 0⟩).1 = .error (.fault .overflow) := by
  have hsettled : threeToFive.IsSettledFor .string :=
    Constraints.isSettledFor_of_single .string (by decide) rfl rfl (by decide +kernel)
  have hhuge : fromHugeLength.IsSettledFor .string :=
    Constraints.isSettledFor_of_single .string (by decide) rfl rfl (by decide +kernel)
  refine ⟨hsettled, ?_, hhuge, rfl⟩
  rcases string_length hsettled ⟨.ofJson .null, .default, .ofTable [], .bundled⟩ (some "email")
    ⟨(⟨⟩ : Random.Highest), [], 0, .start 0⟩ with ⟨text, reached, hrun, hlength⟩ | hfault
  · rcases hlength with ⟨hadmits, -⟩ | hrelaxes
    · exact ⟨text, reached, hrun, hadmits.least 3 rfl, hadmits.greatest 5 rfl⟩
    · obtain ⟨pattern, hpattern, -⟩ := hrelaxes.pattern
      cases hpattern
  · obtain ⟨cause, -, -, hfaults⟩ := hfault
    cases hfaults with
    | provider hbounds h => exact (Provider.not_faultsWithin_ofTable [] _ _ h).elim
    | room hbounds hroom =>
      cases hbounds
      exact absurd hroom (by decide)
    | pattern hpattern => cases hpattern

end Instance

end Specimen

import Specimen.Proofs.Instance.TextLength
import Specimen.Proofs.Provider.Sized

/-!
# Specimen.Proofs.Instance.Format

Strings for the formats whose length can be chosen (`string_sized`).

The first text that the bundled source of values gives for such a format fits, so there are no further
attempts. Where it gives none, no number of whole groups lies between the bounds; then the report tells
that the format was given up, and the text is one without a meaning.
-/

namespace Specimen.Instance

open Provider (bundled)
open Provider.Bundled (IsGrouped IsSized groupSize?)

variable {σ : Type} {size lo hi : Nat} {set : Constraints} {format : String} {hint : Hint}
variable {setting : Setting σ} {locale : Locale}

/-- How a string for a format whose texts are made of groups comes out, with the report before and
after it: there are whole groups, and nothing is recorded; or there can be none, and the format was given
up, for a text without a meaning if there is room for it. -/
inductive KeepsFormat (set : Constraints) (format : String) (size lo hi : Nat) (before : Report) :
    Except Failure String → Report → Prop where
  | grouped {text : String} (h : IsGrouped size lo hi text.length) :
    KeepsFormat set format size lo hi before (.ok text) before
  | givenUp {result : Except Failure String} (h : ¬∃ length, IsGrouped size lo hi length)
      (hlength : ∀ text, result = .ok text → lo ≤ text.length ∧ text.length ≤ hi)
      (hroom : ∀ failure, result = .error failure →
        failure = .fault .overflow ∧ Random.maxRoom < hi + PlainText.spareRoom) :
    KeepsFormat set format size lo hi before result
      (before.record .formatFallback set.pointer.text
        s!"no '{format}' value within length [{lo}, {hi}]; plain text used")

variable [Random.Source σ]

section Known

variable (hparse : Hint.parse? format = some hint) (hsize : groupSize? hint = some size)

include hparse hsize

theorem yields_hinted_sized (h : lo ≤ hi) {attempts : Nat} (hattempts : attempts ≠ 0) :
    Yields (hinted (bundled locale : Provider σ) format lo hi attempts) (IsSized size lo hi) := by
  -- One attempt decides: a text that is given fits, and without one there are no others.
  obtain ⟨others, rfl⟩ := Nat.exists_eq_succ_of_ne_zero hattempts
  unfold hinted
  rw [Provider.Bundled.provideTextWithin_bundled locale hparse h]
  refine (Provider.Bundled.yields_sizedText locale hsize).bind_of fun text? hsized => ?_
  cases text? with
  | none => exact ends_pure hsized
  | some text =>
    have hgrouped := hsized.grouped text rfl
    dsimp only
    rw [if_pos (fits_eq_true_iff.mpr ⟨hgrouped.least, hgrouped.greatest⟩)]
    exact ends_pure hsized

variable (hprovider : setting.provider = bundled locale)
variable (hattempts : setting.options.formatAttempts ≠ 0) (h : lo ≤ hi)

include hprovider hattempts h

theorem leaves_formatted_sized :
    Leaves (formatted setting set format lo hi) fun before text? after =>
      IsSized size lo hi text? ∧
        after = if text?.isSome then before else
          before.record .formatFallback set.pointer.text
            s!"no '{format}' value within length [{lo}, {hi}]; plain text used" := by
  have hsupports : setting.provider.supports format = true := by
    rw [hprovider]
    exact Option.isSome_of_eq_some hparse
  unfold formatted
  rw [if_pos hsupports, hprovider]
  refine (leaves_draw (yields_hinted_sized hparse hsize h hattempts)).bind fun text? => ?_
  cases text? with
  | some text =>
    refine leaves_pure ?_
    rintro _ _ ⟨rfl, hsized⟩
    exact ⟨hsized, rfl⟩
  | none =>
    refine (leaves_record _ _ _).bind fun _ => leaves_pure ?_
    rintro _ _ rfl _ ⟨rfl, hsized⟩
    exact ⟨hsized, rfl⟩

variable (hlimit : hi < Random.maxSize)

include hlimit

omit hparse hsize hattempts h in
theorem total_formatted : Total (formatted setting set format lo hi) := by
  have hdraw : Total (Run.draw (hinted setting.provider format lo hi
      setting.options.formatAttempts) : Run σ (Option String)) := by
    refine failsOnly_draw_of_total ((failsOnly_hinted _ _ _ _ _).mono fun fault hfaults => ?_)
    rw [hprovider] at hfaults
    exact Nat.not_le.mpr hlimit (Provider.overflow_of_faultsWithin_bundled hfaults).2
  unfold formatted
  split
  · refine hdraw.bind fun text? => ?_
    split
    · exact failsOnly_pure _
    · exact (failsOnly_record _ _ _).bind fun _ => failsOnly_pure _
  · exact (failsOnly_record _ _ _).bind fun _ => failsOnly_pure _

theorem string_keepsFormat (hpattern : set.pattern = none) (hformat : set.format = some format)
    (hbounds : lengthBounds set setting.options.stringLength = .ok (lo, hi))
    (property : Option String) (progress : Progress σ) :
    ∃ result reached, string setting set property progress = (result, reached) ∧
      KeepsFormat set format size lo hi progress.report result reached.report := by
  obtain ⟨text?, between, hformatted, hsized, hafter⟩ :=
    (leaves_formatted_sized hparse hsize hprovider hattempts h).exists_of_total
      (total_formatted hprovider hlimit) progress
  have hmeaningful : meaningful setting set property lo hi =
      formatted setting set format lo hi := by
    unfold meaningful
    rw [hpattern, hformat]
  unfold string
  rw [hbounds, check_ok_bind]
  dsimp only
  rw [hmeaningful, bind_apply, hformatted]
  cases text? with
  | some text =>
    have hsame : between.report = progress.report := hafter
    exact ⟨.ok text, between, rfl, hsame ▸ .grouped (hsized.grouped text rfl)⟩
  | none =>
    have hsame : (Run.draw (PlainText.draw lo hi) between).2.report = between.report := rfl
    have hlength : Yields (Run.draw (PlainText.draw lo hi) : Run σ String) _ :=
      ends_draw unaffected_false (PlainText.yields_draw_length lo hi)
    have hfails : FailsOnly (Run.draw (PlainText.draw lo hi) : Run σ String) fun failure =>
        failure = .fault .overflow ∧ Random.maxRoom < max lo hi + PlainText.spareRoom := by
      refine failsOnly_attempt (failsOnly_attemptDraw (PlainText.failsOnly_draw lo hi) ?_)
      rintro _ ⟨rfl, hroom⟩
      exact ⟨rfl, hroom⟩
    have hfails := hfails between
    have hlength := (hlength between).2
    dsimp only
    cases hdrawn : Run.draw (PlainText.draw lo hi) between with
    | mk result reached =>
      rw [hdrawn] at hsame hfails hlength
      rw [Nat.max_eq_right h] at hfails hlength
      refine ⟨result, reached, rfl, ?_⟩
      rw [hsame, hafter]
      refine .givenUp (hsized.missing_iff.mp rfl) (fun text htext => ?_) hfails
      exact (hlength text htext).resolve_left fun hf => hf

end Known

/-- Bytes in base64, in five to seven characters. -/
def bytesInFiveToSeven : Constraints :=
  { Constraints.any .root with
    kinds := .of [.string], format := some "byte", minLength := some 5, maxLength := some 7 }

end Specimen.Instance

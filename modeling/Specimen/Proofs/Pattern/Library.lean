import Specimen.Pattern.Library
import Specimen.Proofs.Pattern.Matcher
import Specimen.Proofs.Pattern.Sampler

/-!
# Specimen.Proofs.Pattern.Library

What is asked of a library of regular expressions (`Library.IsFaithful`): it reads an expression as
the syntax has it, what it draws is described by the expression as a whole, and it matches a text
exactly if some part of it is described. It may refuse any expression.

The bundled library is faithful (`Library.bundled_isFaithful`), and its draws only fail where the
random source stalls (`Library.stalls_of_faults_bundled`).
-/

namespace Specimen.Pattern

variable {σ : Type}

/-- A library that means by an expression what its syntax says. -/
structure Library.IsFaithful (library : Library σ) (lexicon : Lexicon) : Prop where
  /-- What is drawn is a full match of the expression. -/
  sampler {expression : String} {maxRepeat : Nat} {draw : Random.Draw σ String} :
    library.sampler? expression maxRepeat = some draw →
      ∃ regex, Regex.parse? lexicon expression = some regex ∧ Yields draw regex.DescribesWhole
  /-- A match may begin and end anywhere in a text. -/
  matcher {expression : String} {isMatch : String → Bool} :
    library.matcher? expression = some isMatch →
      ∃ regex, Regex.parse? lexicon expression = some regex ∧
        ∀ text, isMatch text ↔ regex.DescribesPart text

/-- Some draw of a sample fails in a certain way. -/
def Library.Faults (library : Library σ) (fault : Random.Fault) : Prop :=
  ∃ expression maxRepeat sample, library.sampler? expression maxRepeat = some sample ∧
    ∃ source, (sample source).1 = .error fault

/-- What can fail about a sample is what its library fails with. -/
theorem Library.failsOnly_of_samples? {library : Library σ} {pattern : String} {maxRepeat : Nat}
    {sample : Random.Draw σ String} (h : library.samples? pattern maxRepeat = some sample) :
    FailsOnly sample library.Faults :=
  fun source _ hfault => ⟨_, _, sample, h, source, hfault⟩

/-- Without marks there is nothing that has to hold. -/
theorem holds_of_unmarked {words : Language Symbol} {word : List Symbol}
    (h : Sampler.Unmarked words) (hword : word ∈ words) : Holds word := by
  rintro u condition v rfl
  exact absurd (List.mem_append_right u List.mem_cons_self) (h _ hword condition)

namespace Library

variable [Random.Source σ]

theorem bundled_isFaithful : (bundled : Library σ).IsFaithful .bundled where
  sampler {expression maxRepeat draw} hdraw := by
    obtain ⟨sampler, hsampler, rfl⟩ := Option.map_eq_some_iff.mp hdraw
    obtain ⟨regex, hregex, hsampler⟩ := Option.bind_eq_some_iff.mp hsampler
    refine ⟨regex, hregex, (Sampler.yields_draw hsampler).mono ?_⟩
    rintro text ⟨word, hword, hletters⟩
    exact ⟨word, hword, hletters, holds_of_unmarked (Sampler.unmarked_of_ofRegex? hsampler) hword⟩
  matcher {expression isMatch} hmatch := by
    obtain ⟨regex, hregex, rfl⟩ := Option.map_eq_some_iff.mp hmatch
    exact ⟨regex, hregex, fun _ => Regex.matchesPart_iff⟩

/-- A sample of the bundled library is only missing where the random source stalls. -/
theorem stalls_of_faults_bundled {fault : Random.Fault} (h : (bundled : Library σ).Faults fault) :
    Random.Stalls σ fault := by
  obtain ⟨expression, maxRepeat, sample, hsample, source, hfault⟩ := h
  obtain ⟨sampler, -, rfl⟩ := Option.map_eq_some_iff.mp hsample
  exact sampler.failsOnly_draw source fault hfault

end Library

end Specimen.Pattern

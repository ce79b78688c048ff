import Mathlib.Data.List.Forall2
import Specimen.Proofs.Constraint.Reading
import Specimen.Proofs.Schema.Anchors

/-!
# Specimen.Proofs.Schema.Annotation

Documents that are the same apart from annotations.

`default`, `examples` and `example` annotate a schema. `Json.Resembles` compares two values up to
what stands under these keywords. It has to know where they are keywords: not inside data, and not
among the keys of an object that are names, as those under `properties` are.

Two such documents have the same anchors (`Json.Resembles.anchors_eq`) and identifier
(`Json.Resembles.identifier?_eq`), and a reference that does not lead to an annotation that differs
leads to the same position in both (`Document.DifferInAnnotations.resolveReference_eq`). The schemas
below a schema stand at the same positions, and there the documents are the same apart from
annotations again (`Document.Akin`).
-/

namespace Specimen

/-! ### Two lists, element by element -/

/-- Folds over lists agree if their steps agree element by element. -/
theorem foldlM_eq_of_forall₂ {m : Type → Type} [Monad m] {α β γ : Type} {f : γ → α → m γ}
    {g : γ → β → m γ} {as : List α} {bs : List β}
    (h : List.Forall₂ (fun a b => ∀ c, f c a = g c b) as bs) (c : γ) :
    as.foldlM f c = bs.foldlM g c := by
  induction h generalizing c with
  | nil => rfl
  | cons hab _ ih =>
    rw [List.foldlM_cons, List.foldlM_cons, hab]
    exact congrArg _ (funext ih)

/-- Maps over lists agree if they agree element by element. -/
theorem mapM_eq_of_forall₂ {m : Type → Type} [Monad m] [LawfulMonad m] {α β γ : Type} {f : α → m γ}
    {g : β → m γ} {as : List α} {bs : List β} (h : List.Forall₂ (fun a b => f a = g b) as bs) :
    as.mapM f = bs.mapM g := by
  induction h with
  | nil => rfl
  | cons hab _ ih => rw [List.mapM_cons, List.mapM_cons, hab, ih]

theorem filterMap_eq_of_forall₂ {α β γ : Type} {f : α → Option γ} {g : β → Option γ} {as : List α}
    {bs : List β} (h : List.Forall₂ (fun a b => f a = g b) as bs) :
    as.filterMap f = bs.filterMap g := by
  induction h with
  | nil => rfl
  | cons hab _ ih => rw [List.filterMap_cons, List.filterMap_cons, hab, ih]

theorem any_eq_of_forall₂ {α β : Type} {f : α → Bool} {g : β → Bool} {as : List α} {bs : List β}
    (h : List.Forall₂ (fun a b => f a = g b) as bs) : as.any f = bs.any g := by
  induction h with
  | nil => rfl
  | cons hab _ ih => rw [List.any_cons, List.any_cons, hab, ih]

/-- Related elements have the same index. -/
theorem forall₂_zipIdx {α β : Type} {related : α → β → Prop} {as : List α} {bs : List β}
    (h : List.Forall₂ related as bs) (start : Nat) :
    List.Forall₂ (fun p q => p.2 = q.2 ∧ related p.1 q.1) (as.zipIdx start) (bs.zipIdx start) := by
  induction h generalizing start with
  | nil => exact .nil
  | cons hab _ ih => exact .cons ⟨rfl, hab⟩ (ih (start + 1))

/-! ### Values -/

namespace Json

/-- The keywords whose values are examples of what a schema admits. -/
def annotationKeywords : List String := ["default", "examples", "example"]

/-- The keywords whose values are objects with names for keys. -/
def namingKeywords : List String :=
  ["properties", "patternProperties", "dependentRequired", "dependencies"]

/-- The values of annotations are data and not schemas. -/
theorem mem_dataKeywords_of_annotates :
    ∀ {key : String}, key ∈ annotationKeywords → key ∈ dataKeywords := by decide

/-- The values of keywords that give names to schemas are not data. -/
theorem not_mem_dataKeywords_of_naming :
    ∀ {key : String}, key ∈ namingKeywords → key ∉ dataKeywords := by decide

/-- Two values are the same apart from annotations. The flag says that the keys of an object are
names; then nothing is an annotation, and neither is anything inside data. -/
inductive Resembles : (naming : Bool) → Json → Json → Prop where
  | same {naming : Bool} (value : Json) : Resembles naming value value
  | arr {naming : Bool} {as bs : List Json} (hlength : as.length = bs.length)
      (helements : ∀ (index : Nat) (a b : Json), as[index]? = some a → bs[index]? = some b →
        Resembles false a b) :
      Resembles naming (.arr as) (.arr bs)
  | obj {naming : Bool} {as bs : List (String × Json)} (hkeys : Table.names as = Table.names bs)
      (hdata : ∀ (key : String) (a b : Json), (key, a) ∈ as → (key, b) ∈ bs →
        key ∈ dataKeywords → (key ∈ annotationKeywords → naming = true) → a = b)
      (hother : ∀ (key : String) (a b : Json), (key, a) ∈ as → (key, b) ∈ bs →
        key ∉ dataKeywords → Resembles (decide (key ∈ namingKeywords)) a b) :
      Resembles naming (.obj as) (.obj bs)

/-- What is asked of the values under a key of two objects. -/
structure ResemblesUnder (naming : Bool) (key : String) (a b : Json) : Prop where
  data : key ∈ dataKeywords → (key ∈ annotationKeywords → naming = true) → a = b
  other : key ∉ dataKeywords → Resembles (decide (key ∈ namingKeywords)) a b

variable {naming : Bool} {a b : Json} {as bs : List (String × Json)} {key : String}
variable {related : String → Json → Json → Prop}

theorem resemblesUnder_same (value : Json) : ResemblesUnder naming key value value :=
  ⟨fun _ _ => rfl, fun _ => .same value⟩

/-- Annotations may differ, where the keys are no names. -/
theorem resemblesUnder_of_annotates (hk : key ∈ annotationKeywords) (a b : Json) :
    ResemblesUnder false key a b :=
  ⟨fun _ h => (by cases h hk), fun h => absurd (mem_dataKeywords_of_annotates hk) h⟩

/-- What stands under a keyword that has schemas must resemble, with names as keys where the keyword
gives names. -/
theorem resemblesUnder_of_resembles (hk : key ∉ dataKeywords)
    (h : Resembles (decide (key ∈ namingKeywords)) a b) : ResemblesUnder naming key a b :=
  ⟨fun hdata => absurd hdata hk, fun _ => h⟩

/-- Unless the key is a keyword for annotations, the values resemble each other. -/
theorem ResemblesUnder.exists_resembles (h : ResemblesUnder naming key a b)
    (hkey : key ∈ annotationKeywords → naming = true) : ∃ naming, Resembles naming a b := by
  by_cases hdata : key ∈ dataKeywords
  · exact ⟨naming, h.data hdata hkey ▸ .same a⟩
  · exact ⟨_, h.other hdata⟩

/-- Tables with the same keys are related entry by entry. -/
theorem forall₂_of_names_eq (hkeys : Table.names as = Table.names bs)
    (h : ∀ key a b, (key, a) ∈ as → (key, b) ∈ bs → related key a b) :
    List.Forall₂ (fun p q => p.1 = q.1 ∧ related p.1 p.2 q.2) as bs := by
  induction as generalizing bs with
  | nil =>
    cases bs with
    | nil => exact .nil
    | cons _ _ => cases hkeys
  | cons p as ih =>
    cases bs with
    | nil => cases hkeys
    | cons q bs =>
      obtain ⟨hkey, hrest⟩ := List.cons.inj hkeys
      obtain ⟨k, a⟩ := p
      obtain ⟨l, b⟩ := q
      obtain rfl : k = l := hkey
      refine .cons ⟨rfl, h k a b List.mem_cons_self List.mem_cons_self⟩ (ih hrest ?_)
      exact fun key a b ha hb => h key a b (List.mem_cons_of_mem _ ha) (List.mem_cons_of_mem _ hb)

/-- Two objects that resemble each other have the same keys, one by one. -/
theorem Resembles.members (h : Resembles naming (.obj as) (.obj bs)) :
    List.Forall₂ (fun p q => p.1 = q.1 ∧ ResemblesUnder naming p.1 p.2 q.2) as bs := by
  cases h with
  | same => exact List.forall₂_same.mpr fun p _ => ⟨rfl, resemblesUnder_same p.2⟩
  | obj hkeys hdata hother =>
    exact forall₂_of_names_eq hkeys fun key a b ha hb =>
      ⟨hdata key a b ha hb, hother key a b ha hb⟩

/-- The elements of a list are schemas, whatever the list stands for. -/
theorem Resembles.elements {as bs : List Json} (h : Resembles naming (.arr as) (.arr bs)) :
    List.Forall₂ (Resembles false) as bs := by
  cases h with
  | same => exact List.forall₂_same.mpr fun value _ => .same value
  | arr hlength helements =>
    refine List.forall₂_iff_get.mpr ⟨hlength, fun index ha hb => ?_⟩
    exact helements index _ _ (List.getElem?_eq_getElem ha) (List.getElem?_eq_getElem hb)

/-- The values under a key are both missing, or both there and related. -/
theorem lookup_cases_of_forall₂
    (h : List.Forall₂ (fun p q => p.1 = q.1 ∧ related p.1 p.2 q.2) as bs) (key : String) :
    (as.lookup key = none ∧ bs.lookup key = none) ∨
      ∃ a b, as.lookup key = some a ∧ bs.lookup key = some b ∧ related key a b := by
  induction h with
  | nil => exact .inl ⟨rfl, rfl⟩
  | @cons p q as bs hpq _ ih =>
    obtain ⟨k, a⟩ := p
    obtain ⟨l, b⟩ := q
    obtain ⟨rfl, hrelated⟩ : k = l ∧ related k a b := hpq
    rw [List.lookup_cons, List.lookup_cons]
    by_cases hkey : key = k
    · subst hkey
      rw [beq_self_eq_true]
      exact .inr ⟨a, b, rfl, rfl, hrelated⟩
    · rw [beq_false_of_ne hkey]
      exact ih

/-- Objects resemble each other if they do so member by member. -/
theorem resembles_of_members (hnodup : (Table.names as).Nodup)
    (h : List.Forall₂ (fun p q => p.1 = q.1 ∧ ResemblesUnder naming p.1 p.2 q.2) as bs) :
    Resembles naming (.obj as) (.obj bs) := by
  have hkeys : Table.names as = Table.names bs := by
    unfold Table.names
    clear hnodup
    induction h with
    | nil => rfl
    | cons hpq _ ih => rw [List.map_cons, List.map_cons, hpq.1, ih]
  have hunder (key : String) (a b : Json) (ha : (key, a) ∈ as) (hb : (key, b) ∈ bs) :
      ResemblesUnder naming key a b := by
    have hfirst := Table.lookup_of_mem hnodup ha
    have hsecond := Table.lookup_of_mem (hkeys ▸ hnodup) hb
    rcases lookup_cases_of_forall₂ h key with ⟨hnone, -⟩ | ⟨c, d, hc, hd, hcd⟩
    · cases hnone.symm.trans hfirst
    · cases hc.symm.trans hfirst
      cases hd.symm.trans hsecond
      exact hcd
  exact .obj hkeys (fun key a b ha hb => (hunder key a b ha hb).data)
    fun key a b ha hb => (hunder key a b ha hb).other

/-! ### Views -/

theorem Resembles.bool?_eq (h : Resembles naming a b) : a.bool? = b.bool? := by
  cases h <;> rfl

theorem Resembles.string?_eq (h : Resembles naming a b) : a.string? = b.string? := by
  cases h <;> rfl

theorem Resembles.double?_eq (h : Resembles naming a b) : a.double? = b.double? := by
  cases h <;> rfl

/-- What resembles a schema is one. -/
theorem Resembles.isSchema_eq (h : Resembles naming a b) : a.isSchema = b.isSchema := by
  cases h <;> rfl

theorem Resembles.isSome_elements?_eq (h : Resembles naming a b) :
    a.elements?.isSome = b.elements?.isSome := by
  cases h <;> rfl

/-- Values that resemble each other have the same keys in the same order. -/
theorem Resembles.keys (h : Resembles naming a b) :
    List.Forall₂ (fun p q => p.1 = q.1) (a.members?.getD []) (b.members?.getD []) := by
  cases h with
  | same value => exact List.forall₂_same.mpr fun _ _ => rfl
  | arr => exact .nil
  | @obj _ as bs hkeys hdata hother =>
    exact (Resembles.obj hkeys hdata hother).members.imp fun _ _ hpq => hpq.1

/-- The values under a key, for two objects that resemble each other; there are none elsewhere. -/
theorem Resembles.member?_cases (h : Resembles naming a b) (key : String) :
    (a.member? key = none ∧ b.member? key = none) ∨
      ∃ c d, a.member? key = some c ∧ b.member? key = some d ∧ ResemblesUnder naming key c d := by
  cases h with
  | same value =>
    cases hvalue : a.member? key with
    | none => exact .inl ⟨rfl, rfl⟩
    | some c => exact .inr ⟨c, c, rfl, rfl, resemblesUnder_same c⟩
  | arr => exact .inl ⟨rfl, rfl⟩
  | @obj _ as bs hkeys hdata hother =>
    exact lookup_cases_of_forall₂ (Resembles.obj hkeys hdata hother).members key

/-- One step down. The parts resemble each other, unless they are annotations. -/
theorem Resembles.child?_cases (h : Resembles naming a b) (token : String) :
    (a.child? token = none ∧ b.child? token = none) ∨
      ∃ c d, a.child? token = some c ∧ b.child? token = some d ∧
        ((token ∈ annotationKeywords ∧ naming = false) ∨ ∃ naming, Resembles naming c d) := by
  cases h with
  | same value =>
    cases hvalue : a.child? token with
    | none => exact .inl ⟨rfl, rfl⟩
    | some c => exact .inr ⟨c, c, rfl, rfl, .inr ⟨false, .same c⟩⟩
  | @arr _ as bs hlength helements =>
    unfold child?
    cases hindex : Pointer.index? token with
    | none => exact .inl ⟨rfl, rfl⟩
    | some index =>
      show (as[index]? = none ∧ bs[index]? = none) ∨ ∃ c d, as[index]? = some c ∧
        bs[index]? = some d ∧ (_ ∨ ∃ naming, Resembles naming c d)
      by_cases hlt : index < as.length
      · have ha := List.getElem?_eq_getElem hlt
        have hb := List.getElem?_eq_getElem (hlength ▸ hlt)
        exact .inr ⟨_, _, ha, hb, .inr ⟨false, helements index _ _ ha hb⟩⟩
      · exact .inl ⟨List.getElem?_eq_none (Nat.le_of_not_lt hlt),
          List.getElem?_eq_none (hlength ▸ Nat.le_of_not_lt hlt)⟩
  | @obj _ as bs hkeys hdata hother =>
    have hmembers := (Resembles.obj hkeys hdata hother).members
    rcases lookup_cases_of_forall₂ hmembers token with hnone | ⟨c, d, hc, hd, hunder⟩
    · exact .inl hnone
    · refine .inr ⟨c, d, hc, hd, ?_⟩
      by_cases htoken : token ∈ annotationKeywords ∧ naming = false
      · exact .inl htoken
      · refine .inr (hunder.exists_resembles fun hannotates => ?_)
        simpa [hannotates] using htoken

/-- Many steps down. The way may lead through an annotation that differs. -/
theorem Resembles.foldlM_cases (h : Resembles naming a b) (tokens : List String) :
    (∃ before key after, tokens = before ++ key :: after ∧ key ∈ annotationKeywords ∧
        (before ++ [key]).foldlM child? a ≠ (before ++ [key]).foldlM child? b) ∨
      (tokens.foldlM child? a = none ∧ tokens.foldlM child? b = none) ∨
      ∃ c d, tokens.foldlM child? a = some c ∧ tokens.foldlM child? b = some d ∧
        ∃ naming, Resembles naming c d := by
  induction tokens generalizing naming a b with
  | nil => exact .inr (.inr ⟨a, b, rfl, rfl, naming, h⟩)
  | cons token tokens ih =>
    rcases h.child?_cases token with ⟨hc, hd⟩ | ⟨c, d, hc, hd, hchild⟩
    · exact .inr (.inl ⟨by rw [List.foldlM_cons, hc]; rfl, by rw [List.foldlM_cons, hd]; rfl⟩)
    · have hstep (rest : List String) : (token :: rest).foldlM child? a = rest.foldlM child? c ∧
          (token :: rest).foldlM child? b = rest.foldlM child? d := by
        rw [List.foldlM_cons, List.foldlM_cons, hc, hd]
        exact ⟨rfl, rfl⟩
      rw [(hstep tokens).1, (hstep tokens).2]
      by_cases hequal : c = d ∨ ∃ naming, Resembles naming c d
      · have hchild : ∃ naming, Resembles naming c d :=
          hequal.elim (fun heq => ⟨false, heq ▸ .same c⟩) fun h => h
        obtain ⟨inner, hinner⟩ := hchild
        refine (ih hinner).imp_left ?_
        rintro ⟨before, key, after, htokens, hkey, hne⟩
        refine ⟨token :: before, key, after, by rw [htokens, List.cons_append], hkey, ?_⟩
        rwa [List.cons_append, (hstep _).1, (hstep _).2]
      · obtain ⟨hne, hnot⟩ := not_or.mp hequal
        have hkey := (hchild.resolve_right hnot).1
        refine .inl ⟨[], token, tokens, rfl, hkey, fun heq => hne ?_⟩
        rw [List.nil_append, (hstep []).1, (hstep []).2] at heq
        exact Option.some.inj heq

/-! ### Names of positions -/

/-- Names are declared by keywords that no annotation is among. -/
theorem declaredNames_eq_of_resembles (h : Resembles naming (.obj as) (.obj bs)) :
    declaredNames as = declaredNames bs := by
  have hanchor : (as.lookup "$anchor").bind string? = (bs.lookup "$anchor").bind string? := by
    rcases lookup_cases_of_forall₂ h.members "$anchor" with ⟨ha, hb⟩ | ⟨a, b, ha, hb, hunder⟩
    · rw [ha, hb]
    · rw [ha, hb]
      exact (hunder.other (by decide)).string?_eq
  unfold declaredNames
  dsimp only
  rw [hanchor]
  rcases lookup_cases_of_forall₂ h.members "$id" with ⟨ha, hb⟩ | ⟨a, b, ha, hb, hunder⟩
  · rw [ha, hb]
  · rw [ha, hb]
    show _ ++ (a.string? >>= _).toList = _ ++ (b.string? >>= _).toList
    rw [(hunder.other (by decide)).string?_eq]

/-- Lists whose elements have the same anchors have the same anchors. -/
theorem elementAnchors_eq {as bs : List Json} {node : Pointer}
    (h : List.Forall₂ (fun a b => ∀ node, anchors node a = anchors node b) as bs) (start : Nat) :
    elementAnchors node start as = elementAnchors node start bs := by
  induction h generalizing start with
  | nil => rfl
  | cons hab _ ih => rw [elementAnchors, elementAnchors, hab, ih]

/-- Anchors are not looked for in data, so members that are data may differ. -/
theorem memberAnchors_eq {node : Pointer}
    (h : List.Forall₂ (fun p q => p.1 = q.1 ∧
      (p.1 ∉ dataKeywords → ∀ node, anchors node p.2 = anchors node q.2)) as bs) :
    memberAnchors node as = memberAnchors node bs := by
  induction h with
  | nil => rfl
  | @cons p q as bs hpq _ ih =>
    obtain ⟨k, a⟩ := p
    obtain ⟨l, b⟩ := q
    obtain ⟨rfl, hab⟩ : k = l ∧ (k ∉ dataKeywords → _) := hpq
    rw [memberAnchors, memberAnchors, ih]
    congr 1
    split
    · rfl
    · rename_i hkey
      exact hab (by simpa using hkey) _

/-- Annotations declare no names. -/
theorem Resembles.anchors_eq (h : Resembles naming a b) (node : Pointer) :
    a.anchors node = b.anchors node := by
  induction h generalizing node with
  | same value => rfl
  | arr hlength _ ih =>
    refine elementAnchors_eq (List.forall₂_iff_get.mpr ⟨hlength, fun index ha hb => ?_⟩) 0
    exact ih index _ _ (List.getElem?_eq_getElem ha) (List.getElem?_eq_getElem hb)
  | @obj _ as bs hkeys hdata hother ih =>
    have hown := declaredNames_eq_of_resembles (.obj hkeys hdata hother)
    have hmembers := @memberAnchors_eq _ _ node (forall₂_of_names_eq hkeys ih)
    rw [anchors, anchors, hown, hmembers]

/-- Neither is the identifier of a document an annotation. -/
theorem Resembles.identifier?_eq (h : Resembles naming a b) :
    Document.identifier? a = Document.identifier? b := by
  have hid : (a.member? "$id" <|> a.member? "id") = none ∧
      (b.member? "$id" <|> b.member? "id") = none ∨
      ∃ c d, (a.member? "$id" <|> a.member? "id") = some c ∧
        (b.member? "$id" <|> b.member? "id") = some d ∧ c.string? = d.string? := by
    rcases h.member?_cases "$id" with ⟨ha, hb⟩ | ⟨c, d, hc, hd, hcd⟩
    · rw [ha, hb]
      rcases h.member?_cases "id" with hnone | ⟨c, d, hc, hd, hcd⟩
      · exact .inl hnone
      · exact .inr ⟨c, d, hc, hd, (hcd.other (by decide)).string?_eq⟩
    · exact .inr ⟨c, d, by rw [hc]; rfl, by rw [hd]; rfl, (hcd.other (by decide)).string?_eq⟩
  unfold Document.identifier?
  rcases hid with ⟨ha, hb⟩ | ⟨c, d, hc, hd, hcd⟩
  · rw [ha, hb]
  · rw [hc, hd]
    show (c.string? >>= _) = (d.string? >>= _)
    rw [hcd]

end Json

/-! ### Documents -/

namespace Document

variable {document other : Document} {node : Pointer} {keyword : String}

/-- The values at a position of two documents are the same apart from annotations. -/
def Akin (document other : Document) (node : Pointer) : Prop :=
  ∃ naming, Json.Resembles naming (document.fragment node) (other.fragment node)

/-- A position lies at or below an annotation that two documents do not have in common. -/
def ReachesChange (document other : Document) (target : Pointer) : Prop :=
  ∃ before key after, target.tokens = before ++ key :: after ∧ key ∈ Json.annotationKeywords ∧
    (Pointer.mk (before ++ [key])).lookup document.root ≠
      (Pointer.mk (before ++ [key])).lookup other.root

/-- Two documents are the same apart from annotations, and no reference of theirs leads to one that
differs. -/
structure DifferInAnnotations (document other : Document) : Prop where
  root : Json.Resembles false document.root other.root
  anchors : document.anchors = other.anchors
  baseId? : document.baseId? = other.baseId?
  left : ∀ reference ∈ document.root.references, ∀ source target,
    document.resolveReference reference source = .ok target →
      ¬ReachesChange document other target
  right : ∀ reference ∈ other.root.references, ∀ source target,
    other.resolveReference reference source = .ok target → ¬ReachesChange document other target

/-- A place that no annotation leads to is not in what has changed. -/
theorem not_reachesChange {target : Pointer}
    (h : ∀ token ∈ target.tokens, token ∉ Json.annotationKeywords) :
    ¬ReachesChange document other target := by
  rintro ⟨before, key, after, htokens, hkey, -⟩
  have hmem : key ∈ target.tokens := by
    rw [htokens]
    exact List.mem_append_right _ List.mem_cons_self
  exact h key hmem hkey

theorem fragment_push (document : Document) (node : Pointer) (token : String) :
    document.fragment (node.push token) = ((document.fragment node).child? token).getD .null := by
  unfold fragment
  rw [Pointer.lookup_push]
  cases node.lookup document.root <;> rfl

/-- A step by a keyword that has no data leads from akin places to akin places. -/
theorem Akin.push (h : Akin document other node) {token : String}
    (htoken : token ∉ Json.dataKeywords) : Akin document other (node.push token) := by
  obtain ⟨naming, h⟩ := h
  unfold Akin
  rw [fragment_push, fragment_push]
  rcases h.child?_cases token with ⟨hc, hd⟩ | ⟨c, d, hc, hd, hchild⟩
  · rw [hc, hd]
    exact ⟨false, .same .null⟩
  · rw [hc, hd]
    exact hchild.resolve_left fun hannotates =>
      htoken (Json.mem_dataKeywords_of_annotates hannotates.1)

/-- A keyword that holds no data has values that resemble each other, if it has any. -/
theorem Akin.keyword?_cases (h : Akin document other node) (hk : keyword ∉ Json.dataKeywords) :
    (document.keyword? node keyword = none ∧ other.keyword? node keyword = none) ∨
      ∃ a b, document.keyword? node keyword = some a ∧ other.keyword? node keyword = some b ∧
        Json.Resembles (decide (keyword ∈ Json.namingKeywords)) a b := by
  obtain ⟨naming, h⟩ := h
  exact (h.member?_cases keyword).imp_right fun ⟨a, b, ha, hb, hunder⟩ =>
    ⟨a, b, ha, hb, hunder.other hk⟩

/-- Data that is no annotation is the same. -/
theorem Akin.keyword?_eq (h : Akin document other node) (hk : keyword ∈ Json.dataKeywords)
    (hannotates : keyword ∉ Json.annotationKeywords) :
    document.keyword? node keyword = other.keyword? node keyword := by
  obtain ⟨naming, h⟩ := h
  unfold keyword?
  rcases h.member?_cases keyword with ⟨ha, hb⟩ | ⟨a, b, ha, hb, hunder⟩
  · rw [ha, hb]
  · rw [ha, hb, hunder.data hk fun h => absurd h hannotates]

/-- Below a keyword that has names for keys, no key is an annotation. -/
theorem Akin.name (h : Akin document other node) (hk : keyword ∈ Json.namingKeywords)
    {value : Json} (hvalue : document.keyword? node keyword = some value) (name : String) :
    Akin document other ((node.push keyword).push name) := by
  rcases h.keyword?_cases (Json.not_mem_dataKeywords_of_naming hk) with
    ⟨hnone, -⟩ | ⟨a, b, ha, hb, hab⟩
  · cases hnone.symm.trans hvalue
  · unfold Akin
    rw [fragment_push _ (node.push keyword), fragment_push _ (node.push keyword),
      fragment_push_of_keyword? ha, fragment_push_of_keyword? hb]
    rw [decide_eq_true hk] at hab
    rcases hab.child?_cases name with ⟨hc, hd⟩ | ⟨c, d, hc, hd, hchild⟩
    · rw [hc, hd]
      exact ⟨false, .same .null⟩
    · rw [hc, hd]
      exact hchild.resolve_left fun hannotates => by cases hannotates.2

/-! ### References -/

/-- What is found at a position is much the same, unless it is an annotation. -/
theorem has_eq_and_akin (h : DifferInAnnotations document other) {target : Pointer}
    (hreach : ¬ReachesChange document other target) :
    document.has target = other.has target ∧ Akin document other target := by
  unfold has Akin fragment Pointer.lookup
  rcases h.root.foldlM_cases target.tokens with hchange | ⟨ha, hb⟩ | ⟨a, b, ha, hb, hab⟩
  · exact absurd hchange hreach
  · rw [ha, hb]
    exact ⟨rfl, false, .same .null⟩
  · rw [ha, hb]
    exact ⟨rfl, hab⟩

/-- The name of a document is not an annotation. -/
theorem DifferInAnnotations.isExternal_eq (h : DifferInAnnotations document other)
    (reference : String) : document.isExternal reference = other.isExternal reference := by
  unfold isExternal
  rw [h.baseId?]

/-- A reference into the document finds the same position in both documents. -/
theorem DifferInAnnotations.target?_eq (h : DifferInAnnotations document other)
    {reference : String} (hl : reference ∈ document.root.references)
    (hr : reference ∈ other.root.references) (hinternal : document.isExternal reference = false) :
    document.target? reference = other.target? reference := by
  have hlocate : document.locate? = other.locate? := by
    unfold locate?
    rw [h.anchors]
  have hleft (target : Pointer) (ht : document.target? reference = some target) :=
    h.left reference hl .root target (resolveReference_eq_ok_iff.mpr ⟨hinternal, ht⟩)
  have hright (target : Pointer) (ht : other.target? reference = some target) :=
    h.right reference hr .root target
      (resolveReference_eq_ok_iff.mpr ⟨h.isExternal_eq reference ▸ hinternal, ht⟩)
  unfold target? at hleft hright ⊢
  rw [← hlocate] at hright ⊢
  cases hfound : document.locate? (splitReference reference).2 with
  | none => rfl
  | some target =>
    rw [hfound, Option.filter_some] at hleft hright
    rw [Option.filter_some, Option.filter_some]
    by_cases hreach : ReachesChange document other target
    · -- The target is an annotation that differs, so it is found in neither document.
      rw [if_neg fun hhas => hleft target (if_pos hhas) hreach,
        if_neg fun hhas => hright target (if_pos hhas) hreach]
    · rw [(has_eq_and_akin h hreach).1]

/-- Akin nodes have the same reference. -/
theorem Akin.referenceOf_eq (h : Akin document other node) :
    document.referenceOf node = other.referenceOf node := by
  unfold referenceOf
  rcases h.keyword?_cases (by decide : "$ref" ∉ Json.dataKeywords) with
    ⟨ha, hb⟩ | ⟨a, b, ha, hb, hab⟩
  · rw [ha, hb]
  · rw [ha, hb]
    cases hab <;> rfl

/-- The reference of a schema leads to the same target in both documents, and not to an annotation
that differs. -/
theorem DifferInAnnotations.resolveReference_eq (h : DifferInAnnotations document other)
    (hnode : Akin document other node) {reference : String}
    (hr : document.referenceOf node = .ok (some reference)) (source : Pointer) :
    document.resolveReference reference source = other.resolveReference reference source ∧
      ∀ target, document.resolveReference reference source = .ok target →
        Akin document other target := by
  have hl := mem_references_of_referenceOf hr
  have hr := mem_references_of_referenceOf (hnode.referenceOf_eq ▸ hr)
  refine ⟨?_, fun target ht => (has_eq_and_akin h (h.left reference hl source target ht)).2⟩
  unfold resolveReference
  rw [← h.isExternal_eq]
  cases hexternal : document.isExternal reference with
  | true => rfl
  | false => rw [h.target?_eq hl hr hexternal]

/-- Following references from a target on comes to the same end. -/
theorem chase_eq_of_akin (h : DifferInAnnotations document other) {start : Pointer}
    {visited : List Pointer} (hleft : node ∈ document.targets) (hright : node ∈ other.targets)
    (hnode : Akin document other node) :
    document.chase start visited node hleft = other.chase start visited node hright ∧
      ∀ target, document.chase start visited node hleft = .ok target →
        Akin document other target := by
  have hreference := hnode.referenceOf_eq
  -- The way through the second document is the one through the first, case by case.
  fun_induction document.chase start visited node hleft with
  | case1 visited node hleft error hr =>
    refine ⟨?_, nofun⟩
    rw [chase]
    split <;> rename_i he <;> cases (hr.symm.trans hreference).trans he
    rfl
  | case2 visited node hleft hr =>
    refine ⟨?_, fun target htarget => Except.ok.inj htarget ▸ hnode⟩
    rw [chase]
    split <;> rename_i he <;> cases (hr.symm.trans hreference).trans he
    rfl
  | case3 visited node hleft reference hr hvisited =>
    refine ⟨?_, nofun⟩
    rw [chase]
    split <;> rename_i he <;> cases (hr.symm.trans hreference).trans he
    rw [dif_pos hvisited]
  | case4 visited node hleft reference hr hvisited error ht =>
    obtain ⟨hresolve, -⟩ := h.resolveReference_eq hnode hr node
    refine ⟨?_, nofun⟩
    rw [chase]
    split <;> rename_i he <;> cases (hr.symm.trans hreference).trans he
    rw [dif_neg hvisited]
    split <;> rename_i he <;> cases (ht.symm.trans hresolve).trans he
    rfl
  | case5 visited node hleft reference hr hvisited target ht ih =>
    obtain ⟨hresolve, hakin⟩ := h.resolveReference_eq hnode hr node
    have htarget := hakin target ht
    have hmem := mem_targets_of_resolveReference (hreference ▸ hr) (hresolve ▸ ht)
    obtain ⟨hsame, hend⟩ := ih hmem htarget htarget.referenceOf_eq
    refine ⟨?_, hend⟩
    rw [hsame]
    conv_rhs => rw [chase]
    split <;> rename_i he <;> cases (hr.symm.trans hreference).trans he
    rw [dif_neg hvisited]
    split <;> rename_i he <;> cases (ht.symm.trans hresolve).trans he
    rfl

/-- Following references comes to the same end, which is no annotation that differs. -/
theorem resolve_eq_of_akin (h : DifferInAnnotations document other)
    (hnode : Akin document other node) :
    document.resolve node = other.resolve node ∧
      ∀ target, document.resolve node = .ok target → Akin document other target := by
  have hreference := hnode.referenceOf_eq
  fun_cases document.resolve node with
  | case1 error hr =>
    refine ⟨?_, nofun⟩
    rw [resolve]
    split <;> rename_i he <;> cases (hr.symm.trans hreference).trans he
    rfl
  | case2 hr =>
    refine ⟨?_, fun target htarget => Except.ok.inj htarget ▸ hnode⟩
    rw [resolve]
    split <;> rename_i he <;> cases (hr.symm.trans hreference).trans he
    rfl
  | case3 reference hr error ht =>
    obtain ⟨hresolve, -⟩ := h.resolveReference_eq hnode hr node
    refine ⟨?_, nofun⟩
    rw [resolve]
    split <;> rename_i he <;> cases (hr.symm.trans hreference).trans he
    split <;> rename_i he <;> cases (ht.symm.trans hresolve).trans he
    rfl
  | case4 reference hr target ht =>
    obtain ⟨hresolve, hakin⟩ := h.resolveReference_eq hnode hr node
    have hmem := mem_targets_of_resolveReference (hreference ▸ hr) (hresolve ▸ ht)
    obtain ⟨hsame, hend⟩ := chase_eq_of_akin h
      (mem_targets_of_resolveReference hr ht) hmem (hakin target ht)
    refine ⟨?_, hend⟩
    rw [hsame, resolve]
    split <;> rename_i he <;> cases (hr.symm.trans hreference).trans he
    split <;> rename_i he <;> cases (ht.symm.trans hresolve).trans he
    rfl

/-! ### Schemas below a schema -/

theorem Akin.subschema?_eq (h : Akin document other node) (hk : keyword ∉ Json.dataKeywords) :
    document.subschema? node keyword = other.subschema? node keyword := by
  unfold subschema?
  rcases h.keyword?_cases hk with ⟨ha, hb⟩ | ⟨a, b, ha, hb, hab⟩
  · rw [ha, hb]
  · rw [ha, hb]
    dsimp only
    rw [hab.isSchema_eq]

/-- Akin nodes have schemas in the same places. -/
theorem Akin.subschemas_eq (h : Akin document other node) (hk : keyword ∉ Json.dataKeywords) :
    document.subschemas node keyword = other.subschemas node keyword := by
  unfold subschemas
  rcases h.keyword?_cases hk with ⟨ha, hb⟩ | ⟨a, b, ha, hb, hab⟩
  · rw [ha, hb]
  · rw [ha, hb]
    cases hab with
    | same value => rfl
    | @arr _ as bs hlength helements =>
      have hlist : Json.Resembles false (.arr as) (.arr bs) := .arr hlength helements
      refine filterMap_eq_of_forall₂ ((forall₂_zipIdx hlist.elements 0).imp fun p q hpq => ?_)
      obtain ⟨a, index⟩ := p
      obtain ⟨b, index'⟩ := q
      obtain ⟨rfl, hab⟩ : index = index' ∧ Json.Resembles false a b := hpq
      dsimp only
      rw [hab.isSchema_eq]
    | obj => rfl

theorem Akin.namedSubschemas_eq (h : Akin document other node)
    (hk : keyword ∈ Json.namingKeywords) :
    document.namedSubschemas node keyword = other.namedSubschemas node keyword := by
  unfold namedSubschemas
  rcases h.keyword?_cases (Json.not_mem_dataKeywords_of_naming hk) with
    ⟨ha, hb⟩ | ⟨a, b, ha, hb, hab⟩
  · rw [ha, hb]
  · rw [ha, hb]
    rw [decide_eq_true hk] at hab
    cases hab with
    | same value => rfl
    | arr => rfl
    | @obj _ as bs hkeys hdata hother =>
      have hmembers := (Json.Resembles.obj hkeys hdata hother).members
      refine filterMap_eq_of_forall₂ (hmembers.imp fun p q hpq => ?_)
      obtain ⟨name, a⟩ := p
      obtain ⟨name', b⟩ := q
      obtain ⟨rfl, hunder⟩ : name = name' ∧ Json.ResemblesUnder true name a b := hpq
      obtain ⟨naming, hab⟩ := hunder.exists_resembles fun _ => rfl
      dsimp only
      rw [hab.isSchema_eq]

theorem Akin.subschema? {child : Pointer} (h : Akin document other node)
    (hk : keyword ∉ Json.dataKeywords)
    (hchild : document.subschema? node keyword = some child) : Akin document other child := by
  unfold Document.subschema? at hchild
  split at hchild
  · split at hchild
    · cases hchild
      exact h.push hk
    · cases hchild
  · cases hchild

theorem Akin.subschemas {child : Pointer} (h : Akin document other node)
    (hk : keyword ∉ Json.dataKeywords) (hchild : child ∈ document.subschemas node keyword) :
    Akin document other child := by
  unfold Document.subschemas at hchild
  split at hchild
  · obtain ⟨⟨value, index⟩, -, hindex⟩ := List.mem_filterMap.mp hchild
    dsimp only at hindex
    split at hindex
    · cases hindex
      exact (h.push hk).push (Json.toString_not_mem_dataKeywords index)
    · cases hindex
  · cases hchild

theorem Akin.namedSubschemas {name : String} {child : Pointer} (h : Akin document other node)
    (hk : keyword ∈ Json.namingKeywords)
    (hchild : (name, child) ∈ document.namedSubschemas node keyword) :
    Akin document other child := by
  unfold Document.namedSubschemas at hchild
  split at hchild
  · rename_i members hvalue
    obtain ⟨⟨key, value⟩, -, hkey⟩ := List.mem_filterMap.mp hchild
    dsimp only at hkey
    split at hkey
    · cases hkey
      exact h.name hk hvalue name
    · cases hkey
  · cases hchild

end Document

end Specimen

import Mathlib
import Turnstile.Charset
import Turnstile.Proofs.Text.Pairs
/-!
# Declared character sets

A content type is a media type and parameters, with semicolons between them. The first parameter whose key is
`charset` decides alone, also if its label is unknown: no other part of the content type counts
(`FirstDecides`).
-/
namespace Turnstile.Charset

open Text

/-- The content type has this media type and these parameters. -/
structure Consists (contentType : String) (media : List Char) (parameters : List (List Char)) : Prop where
  joined : contentType.toList = [';'].intercalate (media :: parameters)
  plain : ∀ part ∈ media :: parameters, ';' ∉ part

/-- Of the parameters that declare a character set, the first one has this value. -/
def FirstDeclares (parameters : List (List Char)) (value : List Char) : Prop :=
  ∃ before parameter after, parameters = before ++ parameter :: after ∧
    (∀ earlier ∈ before, ∀ other, ¬Gives "charset" earlier other) ∧ Gives "charset" parameter value

/-- The label stands between double quotes, and these between blanks; there may be none of either. -/
def Labels (value label : List Char) : Prop :=
  ∃ quoted, Trims isBlank value quoted ∧ Trims (· == '"') quoted label

/-- What a content type declares, if it has these parameters. -/
structure FirstDecides (contentType : String) (parameters : List (List Char)) : Prop where
  /-- Content types whose first declarations have one value are read alike, whatever else is in them. -/
  alike : ∀ (other : String) (media : List Char) (others : List (List Char)) (value : List Char),
    Consists other media others → FirstDeclares others value → FirstDeclares parameters value →
    ofContentType (some other) = ofContentType (some contentType)
  /-- A name declares its character set, in letters of either case, in quotes and among blanks. -/
  named : ∀ (charset : Charset) (left opening label closing right : List Char),
    FirstDeclares parameters (left ++ opening ++ label ++ closing ++ right) →
    (∀ c ∈ left ++ right, isBlank c = true) → (∀ c ∈ opening ++ closing, c = '"') →
    label.map Char.toLower = charset.name.toList.map Char.toLower →
    ofContentType (some contentType) = charset
  /-- So does every other label. -/
  labelled : ∀ (value label : List Char) (known : String × Charset), FirstDeclares parameters value →
    Labels value label → known ∈ labels → label.map Char.toLower = known.1.toList →
    ofContentType (some contentType) = known.2
  unknown : ∀ value label : List Char, FirstDeclares parameters value → Labels value label →
    (∀ known ∈ labels, label.map Char.toLower ≠ known.1.toList) → ofContentType (some contentType) = .latin1
  undeclared : (∀ parameter ∈ parameters, ∀ value, ¬Gives "charset" parameter value) →
    ofContentType (some contentType) = .latin1

/-! ## The first declaration -/

/-- The character set of a declared value. -/
def ofValue (value : List Char) : Charset :=
  (labels.lookup (lower (String.ofList (strip (· == '"') (strip isBlank value))))).getD default

variable {contentType : String} {media value label : List Char} {parameters : List (List Char)}

theorem labelOf_eq (parameter : List Char) :
    labelOf parameter = (valueOf "charset" parameter).map fun value => String.ofList (strip isBlank value) := by
  rw [labelOf, valueOf]
  cases splitFirst '=' parameter with
  | none => rfl
  | some cut =>
    simp only
    split <;> rfl

theorem ofLabel_strip (value : List Char) :
    (ofLabel (String.ofList (strip isBlank value))).getD default = ofValue value := by
  rw [ofLabel, ofValue, String.toList_ofList, strip_strip]

/-- The parameters are searched for a value under the key `charset`. -/
theorem ofContentType_eq (consists : Consists contentType media parameters) :
    ofContentType (some contentType) = ((parameters.findSome? (valueOf "charset")).map ofValue).getD default := by
  have cut : (pieces ';' contentType.toList).drop 1 = parameters := by
    rw [consists.joined, pieces_intercalate consists.plain (List.cons_ne_nil _ _)]
    rfl
  have found : parameters.findSome? labelOf =
      (parameters.findSome? (valueOf "charset")).map fun value => String.ofList (strip isBlank value) := by
    rw [List.map_findSome?]
    exact congrArg (List.findSome? · parameters) (funext labelOf_eq)
  rw [ofContentType, cut, found]
  cases parameters.findSome? (valueOf "charset") with
  | none => rfl
  | some value =>
    simp only [Option.map_some, Option.getD_some]
    exact ofLabel_strip value

theorem findSome?_valueOf (first : FirstDeclares parameters value) :
    parameters.findSome? (valueOf "charset") = some value := by
  obtain ⟨before, parameter, after, rfl, silent, gives⟩ := first
  have skipped : before.findSome? (valueOf "charset") = none :=
    List.findSome?_eq_none_iff.mpr fun earlier mem => (valueOf_eq_none_iff (by decide)).mpr (silent earlier mem)
  rw [List.findSome?_append, skipped, Option.none_or, List.findSome?_cons,
    (valueOf_eq_some_iff (by decide)).mpr gives]

theorem ofContentType_of_first (consists : Consists contentType media parameters)
    (first : FirstDeclares parameters value) : ofContentType (some contentType) = ofValue value := by
  rw [ofContentType_eq consists, findSome?_valueOf first, Option.map_some, Option.getD_some]

/-! ## Labels -/

theorem ofValue_of_labels (labelled : Labels value label) :
    ofValue value = (labels.lookup (String.ofList (label.map Char.toLower))).getD default := by
  obtain ⟨quoted, outer, inner⟩ := labelled
  rw [ofValue, strip_eq_iff.mpr outer, strip_eq_iff.mpr inner, lower, String.toList_ofList]

theorem ofValue_of_known {known : String × Charset} (labelled : Labels value label) (mem : known ∈ labels)
    (same : label.map Char.toLower = known.1.toList) : ofValue value = known.2 := by
  have each : ∀ known ∈ labels, labels.lookup known.1 = some known.2 := by decide
  rw [ofValue_of_labels labelled, same, String.ofList_toList, each known mem]
  rfl

theorem ofValue_of_unknown (labelled : Labels value label)
    (unknown : ∀ known ∈ labels, label.map Char.toLower ≠ known.1.toList) : ofValue value = .latin1 := by
  have none : labels.lookup (String.ofList (label.map Char.toLower)) = none := by
    rw [List.lookup_eq_none_iff]
    intro known mem
    rw [bne_iff_ne]
    rintro same
    exact unknown known mem (by rw [← same, String.toList_ofList])
  rw [ofValue_of_labels labelled, none]
  rfl

/-- Letters are folded to letters: what is folded to a blank or a quote is one already. -/
theorem toLower_of_plain {c : Char} (plain : isBlank c = true ∨ c = '"') : c.toLower = c := by
  refine Char.toLower_eq_of_not_isUpper fun upper => ?_
  have range : 65 ≤ c.toNat ∧ c.toNat ≤ 90 := by
    simpa [Char.isUpper, UInt32.le_iff_toNat_le] using upper
  rcases plain with blank | rfl
  · simp only [isBlank, Bool.or_eq_true, Bool.and_eq_true, decide_eq_true_eq, beq_iff_eq] at blank
    omega
  · exact absurd range.1 (by decide)

theorem name_plain (charset : Charset) :
    ∀ c ∈ charset.name.toList.map Char.toLower, isBlank c = false ∧ c ≠ '"' := by
  have all : (charset.name.toList.map Char.toLower).all (fun c => !isBlank c && c != '"') = true := by
    cases charset <;> rfl
  simpa only [List.all_eq_true, Bool.and_eq_true, Bool.not_eq_true', bne_iff_ne] using all

/-- A spelling of a name has neither blanks nor quotes in it. -/
theorem spelling_plain {charset : Charset} (same : label.map Char.toLower = charset.name.toList.map Char.toLower) :
    ∀ c ∈ label, isBlank c = false ∧ c ≠ '"' := by
  intro c mem
  have folded := charset.name_plain c.toLower (same ▸ List.mem_map_of_mem mem)
  constructor
  · by_contra blank
    rw [Bool.not_eq_false] at blank
    rw [toLower_of_plain (.inl blank), blank] at folded
    exact Bool.false_ne_true folded.1.symm
  · rintro rfl
    exact folded.2 (toLower_of_plain (.inr rfl))

theorem labels_name (charset : Charset) :
    ∃ known ∈ labels, known.1.toList = charset.name.toList.map Char.toLower ∧ known.2 = charset := by
  cases charset <;> decide

theorem labels_of_spelling {charset : Charset} {left opening closing right : List Char}
    (blank : ∀ c ∈ left ++ right, isBlank c = true) (quotes : ∀ c ∈ opening ++ closing, c = '"')
    (same : label.map Char.toLower = charset.name.toList.map Char.toLower) :
    Labels (left ++ opening ++ label ++ closing ++ right) label := by
  have plain := spelling_plain same
  have solid : ∀ c ∈ opening ++ label ++ closing, isBlank c = false := by
    intro c mem
    rw [List.mem_append, List.mem_append] at mem
    rcases mem with (mem | mem) | mem
    · rw [quotes c (List.mem_append_left _ mem)]
      decide
    · exact (plain c mem).1
    · rw [quotes c (List.mem_append_right _ mem)]
      decide
  refine ⟨opening ++ label ++ closing, ?_, ?_⟩
  · simpa only [List.append_assoc] using trims_of_plain blank solid
  · exact trims_of_plain (fun c mem => beq_iff_eq.mpr (quotes c mem))
      fun c mem => beq_eq_false_iff_ne.mpr (plain c mem).2

/-- Of a content type only the first declaration counts, and its label says which character set it is. -/
theorem first_declaration_decides (consists : Consists contentType media parameters) :
    FirstDecides contentType parameters where
  alike other media others value consists' first' first := by
    rw [ofContentType_of_first consists' first', ofContentType_of_first consists first]
  named charset left opening label closing right first blank quotes same := by
    obtain ⟨known, mem, spelled, is⟩ := labels_name charset
    rw [ofContentType_of_first consists first,
      ofValue_of_known (labels_of_spelling blank quotes same) mem (same.trans spelled.symm), is]
  labelled value label known first labelled mem same := by
    rw [ofContentType_of_first consists first, ofValue_of_known labelled mem same]
  unknown value label first labelled foreign := by
    rw [ofContentType_of_first consists first, ofValue_of_unknown labelled foreign]
  undeclared silent := by
    have none : parameters.findSome? (valueOf "charset") = none :=
      List.findSome?_eq_none_iff.mpr fun parameter mem => (valueOf_eq_none_iff (by decide)).mpr (silent parameter mem)
    rw [ofContentType_eq consists, none]
    rfl

/-- A parameter without a value and another one stand before the declaration, and a second declaration after it. -/
theorem first_declaration_decides_in_quotes :
    let contentType := "text/xml;charset;q=1;\u00a0CharSet= \"us-Ascii\" ;charset=utf-8"
    let parameters := ["charset", "q=1", "\u00a0CharSet= \"us-Ascii\" ", "charset=utf-8"].map String.toList
    Consists contentType "text/xml".toList parameters ∧ ofContentType (some contentType) = .ascii := by
  intro contentType parameters
  have consists : Consists contentType "text/xml".toList parameters := ⟨by decide, by decide⟩
  have silent : ∀ earlier ∈ parameters.take 2, ∀ other, ¬Gives "charset" earlier other := by
    have none : ∀ earlier ∈ parameters.take 2, valueOf "charset" earlier = none := by decide
    exact fun earlier mem => (valueOf_eq_none_iff (by decide)).mp (none earlier mem)
  have first : FirstDeclares parameters " \"us-Ascii\" ".toList :=
    ⟨parameters.take 2, "\u00a0CharSet= \"us-Ascii\" ".toList, parameters.drop 3, rfl, silent,
      (valueOf_eq_some_iff (by decide)).mp (by decide)⟩
  exact ⟨consists, (first_declaration_decides consists).named .ascii [' '] ['"'] "us-Ascii".toList ['"'] [' '] first
    (by simp [isBlank]) (by simp) (by decide)⟩

end Turnstile.Charset

import Mathlib.Tactic.MkIffOfInductiveProp
import SourceLint.Proofs.StraightLine.Statement

/-!
Declarations that are read back from what is written.

Each item is written as its name with its value behind an equals sign, and commas stand between the
items. A value may hold brackets, literals and further equals signs. It only has to close what it
opens, and a comma has to stand inside of it.
-/

namespace SourceLint

open Text

/--
An item that can be written and read back.

Its name can be declared, and its value neither holds a comma at its top level nor leaves a bracket
or a literal open.
-/
@[mk_iff] structure Item.IsWritable (item : Item) : Prop where
  identifier : Token.isIdentifier item.name = true
  unreserved : Vocabulary.isReserved item.name = false
  filled : item.value ≠ some []
  trimmed : ∀ value ∈ item.value, trim value = value
  whole : ∀ value ∈ item.value, splitTop (· == ',') value = [value]
  unquoted : ∀ value ∈ item.value, literalAfter none value = none
  balanced : ∀ value ∈ item.value, depthAfter 0 (mask value) = 0

instance (item : Item) : Decidable item.IsWritable :=
  decidable_of_iff' _ (Item.isWritable_iff item)

/-- A declaration as it is written, with commas between its items. -/
def Declaration.written (declaration : Declaration) : Text :=
  declaration.type.spelling ++ ' ' :: join [',', ' '] (declaration.items.map Item.written)

namespace Item.IsWritable

variable {item first : Item} {others : List Item}

/-- The end of what is written is no white space. -/
theorem ends (writable : item.IsWritable) :
    ∃ c, item.written.getLast? = some c ∧ isSpace c = false := by
  refine ends_written writable.identifier fun value valued => ?_
  have present : value ≠ [] := by
    rintro rfl
    exact writable.filled valued
  -- Trimming leaves no white space at the end of the value.
  have last := getLast?_trim value
  rw [writable.trimmed value valued] at last
  exact ⟨present, last⟩

/-- A separator that no value holds at its top level stands in no item that is written. -/
theorem settled {separator : Char} (unplain : isPlain separator = false)
    (other : separator ≠ ' ' ∧ separator ≠ '=') (writable : item.IsWritable)
    (whole : ∀ value ∈ item.value, splitTop (· == separator) value = [value]) :
    Settled (· == separator) item.written := by
  -- A name has plain characters only, so the separator is none of them.
  have named : Flat (· == separator) item.name :=
    flat_of_plain unplain fun c member =>
      .inl (Token.plain_of_isIdentifier writable.identifier c member)
  rw [Item.written]
  cases valued : item.value with
  | none => simpa using named.settled
  | some value =>
    -- The name and the sign in front of the value hold no separator.
    have gap : Flat (· == separator) [' ', '=', ' '] :=
      flat_of_plain unplain (by simp [other.1.symm, other.2.symm])
    have inner : Settled (· == separator) value := {
      closed := closed_of_literalAfter (writable.unquoted value valued)
      uncut := (List.cons.inj (whole value valued)).2
      depth := writable.balanced value valued }
    exact named.settled.append (gap.settled.append inner)

/-- The first item is followed by the others behind a comma, if there are any. -/
theorem exists_join (first : Item) (others : List Item) : ∃ tail,
    join [',', ' '] ((first :: others).map Item.written) = first.written ++ tail ∧
      (tail = [] ∨ ∃ more, tail = ',' :: more) := by
  -- The separator of the others starts with the comma.
  cases others with
  | nil => exact ⟨[], (List.append_nil _).symm, .inl rfl⟩
  | cons next others => exact ⟨_, List.append_assoc .., .inr ⟨_, rfl⟩⟩

/-- What a declaration declares starts with the name of its first item, which nothing calls. -/
theorem declares (writable : ∀ item ∈ first :: others, item.IsWritable) :
    Declares (join [',', ' '] ((first :: others).map Item.written)) first.name ∧
      startsWithCall (join [',', ' '] ((first :: others).map Item.written)) = false := by
  have pieces : ∀ piece ∈ (first :: others).map Item.written,
      ∃ c, piece.getLast? = some c ∧ isSpace c = false :=
    List.forall_mem_map.mpr fun item member => (writable item member).ends
  -- The last item ends the text, and none of the items ends with white space.
  obtain ⟨c, last, solid⟩ : ∃ c, (join [',', ' '] _).getLast? = some c ∧ isSpace c = false :=
    getLast?_join (by simp) pieces
  obtain ⟨tail, split, comma⟩ := exists_join first others
  have identifier := (writable first (by simp)).identifier
  -- The name of the first item ends at its value or at the comma.
  rw [split] at last ⊢
  have declares := Item.declares identifier (writable first (by simp)).unreserved comma
    (by rw [last, Option.any_some, solid])
  exact ⟨declares, Item.startsWithCall_eq_false identifier declares comma⟩

/-- The items are cut at the commas between them, and no blank behind a comma is theirs. -/
theorem map_itemOf_join (writable : ∀ item ∈ first :: others, item.IsWritable) :
    (splitTop (· == ',') (join [',', ' '] ((first :: others).map Item.written))).map
      Declaration.itemOf = first :: others := by
  -- An item is read back, with or without a blank in front.
  have read : ∀ {gap : Text}, (∀ c ∈ gap, c = ' ') → ∀ item ∈ first :: others,
      Declaration.itemOf (gap ++ item.written) = item := fun spaces item member =>
    Declaration.itemOf_written (writable item member).identifier (writable item member).trimmed
      spaces
  -- No written item has a comma at its top level.
  have settled : ∀ piece ∈ first.written :: others.map Item.written,
      Settled (· == ',') piece := by
    rw [← List.map_cons]
    exact List.forall_mem_map.mpr fun item member =>
      (writable item member).settled (by decide) (by decide) (writable item member).whole
  have gap : Flat (· == ',') [' '] := flat_of_plain (by decide) (by decide)
  have head : Declaration.itemOf ([] ++ first.written) = first :=
    read (by simp) first (by simp)
  have tail : others.map ((Declaration.itemOf ∘ ([' '] ++ ·)) ∘ Item.written) = others.map id :=
    List.map_congr_left fun item member => read (by simp) item (List.mem_cons_of_mem _ member)
  have cut : cutTop (· == ',') (join [',', ' '] ((first :: others).map Item.written)) =
      (first.written, (others.map Item.written).map ([' '] ++ ·)) :=
    cutTop_join (by decide) (by decide) (by decide) gap settled
  -- The pieces are the items with their gaps, which are read back one by one.
  rw [splitTop, cut, List.map_cons, List.map_map, List.map_map, tail, List.map_id]
  exact congrArg (· :: others) head

end Item.IsWritable

/-- A type with items behind it is read as these items, each of that type. -/
theorem Declaration.parse?_typed (type : DataType) {first : Item} {others : List Item}
    (writable : ∀ item ∈ first :: others, item.IsWritable) :
    Declaration.parse? (Declaration.written ⟨type, first :: others⟩) =
      some ⟨type, first :: others⟩ := by
  -- The type is split off in front of the first name, which is called nowhere.
  obtain ⟨declares, uncalled⟩ := Item.IsWritable.declares writable
  rw [Declaration.parse?, Declaration.written, declares.split?_typed type, Option.bind_some]
  simp only [uncalled, Bool.false_eq_true, if_false, Item.IsWritable.map_itemOf_join writable]

/-- A declaration is read back from what is written. -/
theorem Declaration.parse?_written {declaration : Declaration} (listed : declaration.items ≠ [])
    (writable : ∀ item ∈ declaration.items, item.IsWritable) :
    Declaration.parse? declaration.written = some declaration := by
  -- The items are one and its followers, as the lemma wants them.
  obtain ⟨type, items⟩ := declaration
  obtain ⟨first, others, rfl⟩ := List.exists_cons_of_ne_nil listed
  exact Declaration.parse?_typed type writable

/-- Values may hold commas, equals signs, brackets and escaped quotes. -/
theorem Declaration.parse?_written_nested :
    let declaration : Declaration := ⟨.unsignedLong,
      [⟨"long_".toList, some "f(a, \x7bb[1, 2]\x7d) == \"x\\\", y\"".toList⟩, ⟨"b".toList, none⟩,
        ⟨"_c".toList, some "= ','".toList⟩]⟩
    declaration.written =
        "unsigned long long_ = f(a, \x7bb[1, 2]\x7d) == \"x\\\", y\", b, _c = = ','".toList ∧
      Declaration.parse? declaration.written = some declaration :=
  ⟨by decide, parse?_written (by simp) (by decide)⟩

end SourceLint

import GpuScript.Proofs.Format.Vector
import GpuScript.Proofs.Result
import GpuScript.Proofs.SortedTable
import GpuScript.Proofs.Token.Unsigned
import GpuScript.VertexTable.Reader

/-!
# The grammar of column headers

A column header is a location and the name of a format, or a location and two types, with slashes
between them: the type of the components that are stored, and the type that the shader declares
(`VertexTable.NamesFormat`, `VertexTable.NamesTypes`). These are exactly the headers that are read.
The table has a single format for every pair of types, so no pair is refused together
(`VertexTable.readColumn_iff_grammar`).
-/

namespace GpuScript

namespace Text

variable {mark : Char} {text first second : List Char} {others : List (List Char)}

/-- A text is its only piece if the mark does not occur in it. -/
theorem pieces_eq_singleton_iff :
    pieces (· == mark) text = [first] ↔ text = first ∧ mark ∉ first := by
  constructor
  · intro cut
    rcases pieces_eq_cons cut with ⟨rfl, -⟩ | ⟨separator, after, -, -, none_⟩
    · refine ⟨rfl, fun listed => ?_⟩
      have plain := (mem_of_mem_pieces (cut ▸ List.mem_cons_self) listed).2
      simp at plain
    · exact absurd none_ (pieces_ne_nil _ after)
  · rintro ⟨rfl, absent⟩
    apply pieces_of_plain
    intro character listed
    exact beq_false_of_ne fun same => absent (same ▸ listed)

/-- A text has a first piece and more if it is this piece, the mark and a text of the other
pieces. -/
theorem pieces_eq_cons_cons_iff :
    pieces (· == mark) text = first :: second :: others ↔
      mark ∉ first ∧ ∃ rest, text = first ++ mark :: rest ∧
        pieces (· == mark) rest = second :: others := by
  constructor
  · intro cut
    rcases pieces_eq_cons cut with ⟨-, impossible⟩ | ⟨separator, rest, split, rfl, later⟩
    · cases impossible
    · have same : separator = mark := by simpa using split
      refine ⟨fun listed => ?_, rest, by rw [same], later⟩
      have plain := (mem_of_mem_pieces (cut ▸ List.mem_cons_self) listed).2
      simp at plain
  · rintro ⟨absent, rest, rfl, later⟩
    have alone : pieces (· == mark) first = [first] := pieces_eq_singleton_iff.mpr ⟨rfl, absent⟩
    have cut : pieces (· == mark) (first ++ mark :: rest) =
        pieces (· == mark) first ++ pieces (· == mark) rest :=
      pieces_append_cons (by simp) first rest
    rw [cut, alone, later, List.singleton_append]

end Text

namespace VertexTable

open Text

/-- A type of stored components has a name, a mode and a size. -/
inductive IsStoredType : String → Mode → Nat → Prop where
  /-- Signed integers of 8 bits. -/
  | byte : IsStoredType "byte" .sint 8
  /-- Unsigned integers of 8 bits. -/
  | ubyte : IsStoredType "ubyte" .uint 8
  /-- Signed integers of 16 bits. -/
  | short : IsStoredType "short" .sint 16
  /-- Unsigned integers of 16 bits. -/
  | ushort : IsStoredType "ushort" .uint 16
  /-- Signed integers of 32 bits. -/
  | int : IsStoredType "int" .sint 32
  /-- Unsigned integers of 32 bits. -/
  | uint : IsStoredType "uint" .uint 32
  /-- Floating-point numbers of 16 bits. -/
  | half : IsStoredType "half" .sfloat 16
  /-- Floating-point numbers of 32 bits. -/
  | float : IsStoredType "float" .sfloat 32
  /-- Floating-point numbers of 64 bits. -/
  | double : IsStoredType "double" .sfloat 64

/-- A type that shaders declare has a name and a number of components. -/
inductive IsDeclaredType : String → Nat → Prop where
  /-- A single number. -/
  | scalar {name : String} (listed : name ∈ ["int", "uint", "float", "double"]) :
    IsDeclaredType name 1
  /-- A vector: the letter for the kind of its components or none, and a decimal size. -/
  | vector {kind size : String} {count : Nat} (letter : kind ∈ ["", "i", "u", "d"])
    (literal : IsUnsignedLiteral 10 size.toList count) (few : count ∈ [2, 3, 4]) :
    IsDeclaredType (kind ++ "vec" ++ size) count

/-- A header is a location and the name of a format. -/
def NamesFormat (header : String) (location : UInt32) (format : Format) : Prop :=
  ∃ place : String, IsUnsignedLiteral 10 place.toList location.toNat ∧
    format ∈ Format.table.entries ∧ header = place ++ "/" ++ format.name

/-- A header is a location, a type of stored components and a type that shaders declare. -/
def NamesTypes (header : String) (location : UInt32) (mode : Mode) (bits count : Nat) : Prop :=
  ∃ place stored declared : String, IsUnsignedLiteral 10 place.toList location.toNat ∧
    IsStoredType stored mode bits ∧ IsDeclaredType declared count ∧
    header = place ++ "/" ++ stored ++ "/" ++ declared

section Types

variable {name stored declared : String} {mode : Mode} {bits count : Nat}

/-- The types of stored components are those of the table. -/
theorem isStoredType_iff_mem : IsStoredType name mode bits ↔ (name, mode, bits) ∈ storedTypes := by
  constructor
  · rintro (_ | _ | _ | _ | _ | _ | _ | _ | _) <;> decide
  · intro listed
    simp only [storedTypes, List.mem_cons, List.not_mem_nil, or_false, Prod.mk.injEq] at listed
    rcases listed with ⟨rfl, rfl, rfl⟩ | ⟨rfl, rfl, rfl⟩ | ⟨rfl, rfl, rfl⟩ | ⟨rfl, rfl, rfl⟩ |
      ⟨rfl, rfl, rfl⟩ | ⟨rfl, rfl, rfl⟩ | ⟨rfl, rfl, rfl⟩ | ⟨rfl, rfl, rfl⟩ | ⟨rfl, rfl, rfl⟩
    · exact .byte
    · exact .ubyte
    · exact .short
    · exact .ushort
    · exact .int
    · exact .uint
    · exact .half
    · exact .float
    · exact .double

/-- A type of stored components is found by its name. -/
theorem storedType_eq_ok_iff :
    storedType name = .ok (mode, bits) ↔ IsStoredType name mode bits := by
  constructor
  · intro found
    rw [storedType] at found
    split at found
    · rename_i entry looked
      have listed := List.mem_of_find?_eq_some looked
      have named := List.find?_some looked
      obtain ⟨own, reading, size⟩ := entry
      obtain ⟨rfl, rfl⟩ := Prod.mk.inj (Except.ok.inj found)
      obtain rfl : own = name := by simpa using named
      exact isStoredType_iff_mem.mpr listed
    · cases found
  · rintro (_ | _ | _ | _ | _ | _ | _ | _ | _) <;> rfl

/-- The name of a type is a letter for the kind of its components, or none, and the rest. -/
theorem exists_kind_vectorPart (name : List Char) :
    ∃ kind ∈ ["", "i", "u", "d"], name = kind.toList ++ vectorPart name := by
  cases name with
  | nil => exact ⟨"", by decide, rfl⟩
  | cons first rest =>
    rw [vectorPart]
    by_cases letter : first = 'i' ∨ first = 'u' ∨ first = 'd'
    · rw [if_pos letter]
      rcases letter with rfl | rfl | rfl
      · exact ⟨"i", by decide, rfl⟩
      · exact ⟨"u", by decide, rfl⟩
      · exact ⟨"d", by decide, rfl⟩
    · rw [if_neg letter]
      exact ⟨"", by decide, rfl⟩

/-- The letter for the kind of its components is taken away from the name of a vector. -/
theorem vectorPart_vector {kind : String} (letter : kind ∈ ["", "i", "u", "d"])
    (size : List Char) :
    vectorPart (kind.toList ++ ("vec".toList ++ size)) = "vec".toList ++ size := by
  simp only [List.mem_cons, List.not_mem_nil, or_false] at letter
  rcases letter with rfl | rfl | rfl | rfl <;> rfl

/-- No vector has the name of a single number. -/
theorem vector_not_scalar {kind : String} (letter : kind ∈ ["", "i", "u", "d"]) (size : String) :
    kind ++ "vec" ++ size ∉ ["int", "uint", "float", "double"] := by
  intro listed
  have opens : ∀ scalar ∈ ["int", "uint", "float", "double"],
      "vec".toList.isPrefixOf (vectorPart scalar.toList) = false := by decide
  have part := vectorPart_vector letter size.toList
  have other := opens _ listed
  rw [String.toList_append, String.toList_append, List.append_assoc, part] at other
  simp at other

/-- The size of a vector is a decimal number from two to four. -/
theorem filter_unsigned?_eq_some_iff {size : List Char} :
    (unsigned? 10 UInt64.size size).filter (fun count => 2 ≤ count ∧ count ≤ 4) = some count ↔
      IsUnsignedLiteral 10 size count ∧ count ∈ [2, 3, 4] := by
  have limit : UInt64.size = 18446744073709551616 := rfl
  rw [Option.filter_eq_some_iff, unsigned?_eq_some_iff, decide_eq_true_iff]
  simp only [List.mem_cons, List.not_mem_nil, or_false]
  constructor
  · rintro ⟨⟨literal, -⟩, range⟩
    exact ⟨literal, by omega⟩
  · rintro ⟨literal, few⟩
    exact ⟨⟨literal, by omega⟩, by omega⟩

/-- The components of a type that shaders declare are counted by its name. -/
theorem componentCount_eq_ok_iff : componentCount name = .ok count ↔ IsDeclaredType name count := by
  constructor
  · intro counted
    rw [componentCount] at counted
    split at counted
    · rename_i scalar
      obtain rfl := Except.ok.inj counted
      exact .scalar (List.contains_iff_mem.mp scalar)
    · split at counted
      · cases counted
      · rename_i size opens
        split at counted
        · rename_i found
          obtain rfl := Except.ok.inj counted
          obtain ⟨literal, few⟩ := filter_unsigned?_eq_some_iff.mp found
          obtain ⟨kind, letter, split⟩ := exists_kind_vectorPart name.toList
          have part := List.isPrefixOf?_eq_some_iff_append_eq.mp opens
          have whole : name = kind ++ "vec" ++ String.ofList size := by
            rw [← String.toList_inj, split, ← part]
            simp
          rw [whole]
          exact .vector letter (by simpa using literal) few
        · cases counted
  · rintro (⟨listed⟩ | ⟨letter, literal, few⟩)
    · rw [componentCount, if_pos (List.contains_iff_mem.mpr listed)]
    · rename_i kind size
      have other : ¬ ["int", "uint", "float", "double"].contains (kind ++ "vec" ++ size) = true :=
        fun scalar => vector_not_scalar letter size (List.contains_iff_mem.mp scalar)
      have part : vectorPart (kind ++ "vec" ++ size).toList = "vec".toList ++ size.toList := by
        rw [String.toList_append, String.toList_append, List.append_assoc]
        exact vectorPart_vector letter size.toList
      have opens : "vec".toList.isPrefixOf? (vectorPart (kind ++ "vec" ++ size).toList) =
          some size.toList := List.isPrefixOf?_eq_some_iff_append_eq.mpr part.symm
      have found := filter_unsigned?_eq_some_iff.mpr ⟨literal, few⟩
      rw [componentCount, if_neg other, opens]
      dsimp only
      rw [found]

/-- Types that shaders declare have from one to four components. -/
theorem IsDeclaredType.count_mem (declares : IsDeclaredType declared count) :
    count ∈ [1, 2, 3, 4] := by
  cases declares with
  | scalar listed => decide
  | vector letter literal few => exact List.mem_cons_of_mem 1 few

/-- For each type of stored components and each number of them the table has a single format. -/
theorem length_filter_isVector : ∀ entry ∈ storedTypes, ∀ count ∈ [1, 2, 3, 4],
    (Format.all.toList.filter (Format.isVector entry.2.2 entry.2.1 count)).length = 1 := by
  decide +kernel

/-- Any two types have a format: the only one of the table that stores the components that the one
type declares in the way that the other type says. -/
theorem exists_combinedFormat (stores : IsStoredType stored mode bits)
    (declares : IsDeclaredType declared count) :
    ∃ format ∈ Format.table.entries, combinedFormat stored declared = .ok format ∧
      ∀ other ∈ Format.table.entries, other.StoresVector bits mode count ↔ other = format := by
  have listed := declares.count_mem
  have few : count ≤ Format.vectorOrder.length := by
    have four : Format.vectorOrder.length = 4 := rfl
    simp only [List.mem_cons, List.not_mem_nil, or_false] at listed
    omega
  have single := length_filter_isVector _ (isStoredType_iff_mem.mp stores) count listed
  obtain ⟨format, own, found, only⟩ := Format.ofVector?_of_single few single
  refine ⟨format, own, ?_, only⟩
  rw [combinedFormat, storedType_eq_ok_iff.mpr stores, ok_bind]
  dsimp only
  rw [componentCount_eq_ok_iff.mpr declares, ok_bind, found]

/-- Two names are read as a format only if they are types. -/
theorem exists_types_of_combinedFormat {format : Format}
    (read : combinedFormat stored declared = .ok format) :
    ∃ mode bits count, IsStoredType stored mode bits ∧ IsDeclaredType declared count := by
  rw [combinedFormat] at read
  obtain ⟨⟨mode, bits⟩, own, read⟩ := bind_eq_ok.mp read
  obtain ⟨count, counted, -⟩ := bind_eq_ok.mp read
  exact ⟨mode, bits, count, storedType_eq_ok_iff.mp own, componentCount_eq_ok_iff.mp counted⟩

/-- A name of a type of stored components is not refused for another type. -/
theorem storedType_ne_invalidCombination (first second : String) :
    storedType name ≠ .error (.invalidCombination first second) := by
  rw [storedType]
  split <;> nofun

/-- A name of a type that shaders declare is not refused for another type. -/
theorem componentCount_ne_invalidCombination (first second : String) :
    componentCount name ≠ .error (.invalidCombination first second) := by
  rw [componentCount]
  split
  · nofun
  · split
    · nofun
    · split <;> nofun

/-- No two types are refused for being together. -/
theorem combinedFormat_ne_invalidCombination (first second : String) :
    combinedFormat stored declared ≠ .error (.invalidCombination first second) := by
  intro refused
  have steps := refused
  rw [combinedFormat] at steps
  rcases bind_eq_error.mp steps with unknown | ⟨⟨mode, bits⟩, own, steps⟩
  · exact storedType_ne_invalidCombination first second unknown
  rcases bind_eq_error.mp steps with unknown | ⟨count, counted, -⟩
  · exact componentCount_ne_invalidCombination first second unknown
  -- Both names are types, and two types always have a format.
  obtain ⟨format, -, read, -⟩ := exists_combinedFormat (storedType_eq_ok_iff.mp own)
    (componentCount_eq_ok_iff.mp counted)
  rw [read] at refused
  cases refused

/-- There is no slash in an unsigned literal. -/
theorem slash_not_mem_of_literal {base value : Nat} {word : List Char}
    (literal : IsUnsignedLiteral base word value) : '/' ∉ word := by
  obtain ⟨sign, digits, plus, rfl, denotes⟩ := literal
  rw [List.mem_append]
  rintro (signed | inner)
  · rcases plus with rfl | rfl
    · cases signed
    · exact absurd signed (by decide)
  · obtain ⟨digit, own⟩ := denotes.exists_isDigitOf inner
    exact absurd own.code (by decide)

/-- There is no slash in the name of a type of stored components. -/
theorem IsStoredType.slash_not_mem (stores : IsStoredType stored mode bits) :
    '/' ∉ stored.toList := by
  cases stores <;> decide

/-- There is no slash in the name of a type that shaders declare. -/
theorem IsDeclaredType.slash_not_mem (declares : IsDeclaredType declared count) :
    '/' ∉ declared.toList := by
  cases declares with
  | scalar listed =>
    revert declared
    decide
  | @vector kind size count letter literal few =>
    have plain : ∀ kind ∈ ["", "i", "u", "d"], '/' ∉ (kind ++ "vec").toList := by decide
    rw [String.toList_append, List.mem_append]
    rintro (front | back)
    · exact plain kind letter front
    · exact slash_not_mem_of_literal literal back

end Types

section Columns

variable {start : Nat} {header : String} {location : UInt32}

/-- There is no slash in a text if its byte is not among the bytes of the text. -/
theorem slash_not_mem_of_bytes {text : String}
    (absent : 47 ∉ text.toByteArray.data.toList) : '/' ∉ text.toList := by
  intro listed
  apply absent
  rw [← String.utf8Encode_toList, List.utf8Encode]
  simp only [List.toList_data_toByteArray, List.mem_flatMap]
  exact ⟨'/', listed, by decide⟩

/-- There is no slash in the name of a format. -/
theorem slash_not_mem_name : ∀ format ∈ Format.table.entries, '/' ∉ format.name.toList := by
  -- The bytes of the names are at hand, their characters are not.
  have bytes : ∀ format ∈ Format.table.entries, 47 ∉ format.name.toByteArray.data.toList := by
    decide +kernel
  intro format listed
  exact slash_not_mem_of_bytes (bytes format listed)

/-- A header is read if its first piece is a location and a format is found for the others. -/
theorem readColumn_eq_ok_iff {column : Column} :
    readColumn start header = .ok column ↔
      ∃ place parts location format, pieces (· == '/') header.toList = place :: parts ∧
        IsUnsignedLiteral 10 place (UInt32.toNat location) ∧
        headerFormat header (parts.map String.ofList) = .ok format ∧
        column = ⟨location, format, alignUp start format.alignment⟩ := by
  constructor
  · intro read
    rw [readColumn] at read
    split at read
    · cases read
    · rename_i location placed
      obtain ⟨place, opens, found⟩ := Option.bind_eq_some_iff.mp placed
      obtain ⟨parts, cut⟩ := List.head?_eq_some_iff.mp opens
      obtain ⟨format, own, result⟩ := bind_eq_ok.mp read
      rw [cut, List.tail_cons] at own
      exact ⟨place, parts, location, format, cut, word32?_eq_some_iff.mp found, own,
        (Except.ok.inj result).symm⟩
  · rintro ⟨place, parts, location, format, cut, literal, own, rfl⟩
    have found : (pieces (· == '/') header.toList).head?.bind word32? = some location := by
      rw [cut, List.head?_cons, Option.bind_some, word32?_eq_some_iff.mpr literal]
    rw [readColumn, found, cut, List.tail_cons]
    dsimp only
    rw [own, ok_bind]

/-- A header with a location and a format name in its two pieces is read as they say. -/
theorem readColumn_of_namesFormat {format : Format}
    (names : NamesFormat header location format) :
    readColumn start header = .ok ⟨location, format, alignUp start format.alignment⟩ := by
  obtain ⟨place, literal, listed, rfl⟩ := names
  have last : pieces (· == '/') format.name.toList = [format.name.toList] :=
    pieces_eq_singleton_iff.mpr ⟨rfl, slash_not_mem_name format listed⟩
  have cut : pieces (· == '/') (place ++ "/" ++ format.name).toList =
      [place.toList, format.name.toList] := by
    refine pieces_eq_cons_cons_iff.mpr ⟨slash_not_mem_of_literal literal, _, ?_, last⟩
    simp
  have found : Format.ofName? format.name = some format := SortedTable.find?_key listed
  refine readColumn_eq_ok_iff.mpr ⟨_, _, location, format, cut, literal, ?_, rfl⟩
  rw [List.map_singleton, String.ofList_toList, headerFormat, found]

/-- A header with a location and two types in its three pieces is read as they say. -/
theorem readColumn_of_namesTypes {mode : Mode} {bits count : Nat}
    (names : NamesTypes header location mode bits count) :
    ∃ format ∈ Format.table.entries,
      readColumn start header = .ok ⟨location, format, alignUp start format.alignment⟩ ∧
      ∀ other ∈ Format.table.entries, other.StoresVector bits mode count ↔ other = format := by
  obtain ⟨place, stored, declared, literal, stores, declares, rfl⟩ := names
  obtain ⟨format, listed, read, only⟩ := exists_combinedFormat stores declares
  have last : pieces (· == '/') declared.toList = [declared.toList] :=
    pieces_eq_singleton_iff.mpr ⟨rfl, declares.slash_not_mem⟩
  have middle : pieces (· == '/') (stored ++ "/" ++ declared).toList =
      [stored.toList, declared.toList] := by
    refine pieces_eq_cons_cons_iff.mpr ⟨stores.slash_not_mem, _, ?_, last⟩
    simp
  have cut : pieces (· == '/') (place ++ "/" ++ stored ++ "/" ++ declared).toList =
      [place.toList, stored.toList, declared.toList] := by
    refine pieces_eq_cons_cons_iff.mpr ⟨slash_not_mem_of_literal literal, _, ?_, middle⟩
    simp
  refine ⟨format, listed, ?_, only⟩
  refine readColumn_eq_ok_iff.mpr ⟨_, _, location, format, cut, literal, ?_, rfl⟩
  rw [List.map_cons, List.map_singleton, String.ofList_toList, String.ofList_toList, headerFormat,
    read]

/-- A header that is read has one of the two forms. -/
theorem names_of_readColumn {column : Column} (read : readColumn start header = .ok column) :
    (∃ location format, NamesFormat header location format) ∨
      ∃ location mode bits count, NamesTypes header location mode bits count := by
  obtain ⟨first, others, location, format, cut, literal, read, -⟩ := readColumn_eq_ok_iff.mp read
  rcases others with _ | ⟨second, _ | ⟨third, _ | ⟨fourth, others⟩⟩⟩
  · cases read
  · obtain ⟨-, _, split, last⟩ := pieces_eq_cons_cons_iff.mp cut
    obtain ⟨rfl, -⟩ := pieces_eq_singleton_iff.mp last
    rw [List.map_cons, List.map_nil, headerFormat] at read
    split at read
    · rename_i found_format named
      obtain ⟨listed, own⟩ := SortedTable.find?_eq_some_iff.mp named
      have name : found_format.name = String.ofList _ := own
      refine .inl ⟨location, found_format, String.ofList first, by simpa using literal, listed, ?_⟩
      rw [name, ← String.toList_inj, split]
      simp
    · cases read
  · obtain ⟨-, _, split, later⟩ := pieces_eq_cons_cons_iff.mp cut
    obtain ⟨-, _, rfl, last⟩ := pieces_eq_cons_cons_iff.mp later
    obtain ⟨rfl, -⟩ := pieces_eq_singleton_iff.mp last
    obtain ⟨mode, bits, count, stores, declares⟩ := exists_types_of_combinedFormat read
    refine .inr ⟨location, mode, bits, count, String.ofList first, _, _, by simpa using literal,
      stores, declares, ?_⟩
    rw [← String.toList_inj, split]
    simp
  · cases read

/-- A header is refused for none of its types because of the other one. -/
theorem readColumn_ne_invalidCombination (first second : String) :
    readColumn start header ≠ .error (.invalidCombination first second) := by
  intro refused
  rw [readColumn] at refused
  split at refused
  · cases refused
  rcases bind_eq_error.mp refused with cause | ⟨_, -, impossible⟩
  · generalize (pieces (· == '/') header.toList).tail.map String.ofList = parts at cause
    rcases parts with _ | ⟨name, _ | ⟨declared, _ | ⟨third, others⟩⟩⟩
    · cases cause
    · rw [headerFormat] at cause
      split at cause <;> cases cause
    · exact combinedFormat_ne_invalidCombination first second cause
    · cases cause
  · cases impossible

end Columns

/-- A column header is read if it is a location and the name of a format, or a location and two
types. A format by its name is the one of the table with that name; two types have a single format
in the table, whose parts are as many as the one type declares and are stored as the other one says.
No header is refused because its two types do not go together. -/
theorem readColumn_iff_grammar (start : Nat) (header : String) :
    ((∃ column, readColumn start header = .ok column) ↔
      (∃ location format, NamesFormat header location format) ∨
        ∃ location mode bits count, NamesTypes header location mode bits count) ∧
    (∀ location format, NamesFormat header location format →
      readColumn start header = .ok ⟨location, format, alignUp start format.alignment⟩) ∧
    (∀ location mode bits count, NamesTypes header location mode bits count →
      ∃ format ∈ Format.table.entries,
        readColumn start header = .ok ⟨location, format, alignUp start format.alignment⟩ ∧
        ∀ other ∈ Format.table.entries, other.StoresVector bits mode count ↔ other = format) ∧
    ∀ stored declared, readColumn start header ≠ .error (.invalidCombination stored declared) := by
  refine ⟨⟨?_, ?_⟩, ?_, ?_, readColumn_ne_invalidCombination⟩
  · rintro ⟨column, read⟩
    exact names_of_readColumn read
  · rintro (⟨location, format, names⟩ | ⟨location, mode, bits, count, names⟩)
    · exact ⟨_, readColumn_of_namesFormat names⟩
    · obtain ⟨format, -, read, -⟩ := readColumn_of_namesTypes names
      exact ⟨_, read⟩
  · intro location format names
    exact readColumn_of_namesFormat names
  · intro location mode bits count names
    exact readColumn_of_namesTypes names

/-- A location with a plus sign and a vector size with a plus sign and a zero in front of it. -/
def signedHeader : String :=
  "+07/half/uvec+03"

/-- Three numbers of 16 bits, each by itself. -/
def halfTriple : Format :=
  ⟨"R16G16B16_SFLOAT", 90, none, [⟨16, .r, .sfloat⟩, ⟨16, .g, .sfloat⟩, ⟨16, .b, .sfloat⟩]⟩

/-- The plus signs and the zeros are read over, and the column starts at the first even byte. -/
theorem readColumn_iff_grammar_signedHeader :
    NamesTypes signedHeader 7 .sfloat 16 3 ∧ halfTriple.StoresVector 16 .sfloat 3 ∧
      readColumn 5 signedHeader = .ok ⟨7, halfTriple, 6⟩ := by
  have place : IsUnsignedLiteral 10 "+07".toList 7 :=
    word32?_eq_some_iff.mp (show word32? "+07".toList = some 7 from rfl)
  have size : unsigned? 10 10 "+03".toList = some 3 := by decide
  have declares : IsDeclaredType ("u" ++ "vec" ++ "+03") 3 :=
    .vector (by decide) (unsigned?_eq_some_iff.mp size).1 (by decide)
  have names : NamesTypes signedHeader 7 .sfloat 16 3 :=
    ⟨"+07", "half", _, place, .half, declares, by decide⟩
  have listed : halfTriple ∈ Format.table.entries := by decide +kernel
  have stores : halfTriple.StoresVector 16 .sfloat 3 := ⟨rfl, rfl⟩
  obtain ⟨-, -, types, -⟩ := readColumn_iff_grammar 5 signedHeader
  obtain ⟨format, -, read, only⟩ := types _ _ _ _ names
  obtain rfl := (only halfTriple listed).mp stores
  exact ⟨names, stores, read⟩

end VertexTable

end GpuScript

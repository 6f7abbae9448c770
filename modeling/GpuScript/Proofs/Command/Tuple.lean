import GpuScript.Proofs.Operation.Survival

/-!
# Numbers and tuples of numbers

A reader of numbers takes one numeric token for each number that it gives (`Takes`), so that one
statement covers tuples of every size. A tuple stands in a pair of round brackets or without one;
`bracketed` reads either, and refuses a bracket that has no counterpart.
-/

namespace GpuScript

namespace Command

variable {tokens rest numerals tuple : List Token} {numbers : List Single}

/-- Numeric tokens of any notation, and the numbers of 32 bits that they are narrowed to. -/
def Numerals (tokens : List Token) (numbers : List Single) : Prop :=
  tokens.map singleOf? = numbers.map some

/-- Tokens are a tuple: numeric tokens, in a pair of round brackets or without one. -/
inductive IsTuple (numbers : List Single) : List Token → Prop
  /-- The numbers stand alone. -/
  | bare {numerals : List Token} (narrowed : Numerals numerals numbers) :
    IsTuple numbers numerals
  /-- The numbers stand between two brackets. -/
  | bracketed {opening closing : Token} {numerals : List Token}
    (opens : opening.kind = .openBracket) (narrowed : Numerals numerals numbers)
    (closes : closing.kind = .closeBracket) :
    IsTuple numbers (opening :: (numerals ++ [closing]))

/-- A numeric token is no bracket. -/
theorem kind_ne_of_singleOf? {token : Token} {value : Single}
    (number : singleOf? token = some value) :
    token.kind ≠ .openBracket ∧ token.kind ≠ .closeBracket := by
  constructor
  all_goals
    intro bracket
    rw [singleOf?, bracket] at number
    cases number

/-- The first token of a numeral is no bracket. -/
theorem Numerals.kind_ne (narrowed : Numerals tokens numbers) {token : Token}
    (listed : token ∈ tokens) : token.kind ≠ .openBracket ∧ token.kind ≠ .closeBracket := by
  have found : singleOf? token ∈ numbers.map some := narrowed ▸ List.mem_map_of_mem listed
  obtain ⟨value, -, same⟩ := List.mem_map.mp found
  exact kind_ne_of_singleOf? same.symm

/-- A number is read from a numeric token. -/
theorem number_eq_ok {value : Single} : number tokens = .ok (value, rest) ↔
    ∃ token, singleOf? token = some value ∧ tokens = token :: rest := by
  cases tokens with
  | nil => simp [number]
  | cons token others =>
    rw [number]
    cases numeric : token.kind.toDouble? with
    | none => simp [singleOf?, numeric]
    | some double => simp [singleOf?, numeric]

variable {α : Type} {read : List Token → Except Error (α × List Token)} {list : α → List Single}

/-- A reader takes one numeric token for each number of what it gives. -/
def Takes (read : List Token → Except Error (α × List Token)) (list : α → List Single) : Prop :=
  ∀ tokens value rest, read tokens = .ok (value, rest) ↔
    ∃ numerals, Numerals numerals (list value) ∧ tokens = numerals ++ rest

/-- A number is taken from one token. -/
theorem takes_number : Takes number fun value => [value] := by
  intro tokens value rest
  rw [number_eq_ok]
  constructor
  · rintro ⟨token, numeric, rfl⟩
    exact ⟨[token], by simp [Numerals, numeric], rfl⟩
  · rintro ⟨numerals, narrowed, rfl⟩
    obtain ⟨token, rfl, numeric⟩ := List.map_eq_singleton_iff.mp narrowed
    exact ⟨token, numeric, rfl⟩

/-- One number more is taken from one token more. -/
theorem Takes.after_number (others : Takes read list) :
    Takes (fun tokens => do
      let (first, tokens) ← number tokens
      let (second, tokens) ← read tokens
      .ok ((first, second), tokens)) fun value => value.1 :: list value.2 := by
  rintro tokens ⟨first, second⟩ rest
  constructor
  · intro accepted
    obtain ⟨⟨value, between⟩, own, accepted⟩ := bind_eq_ok.mp accepted
    obtain ⟨⟨value', rest'⟩, later, accepted⟩ := bind_eq_ok.mp accepted
    cases accepted
    obtain ⟨token, numeric, rfl⟩ := number_eq_ok.mp own
    obtain ⟨numerals, narrowed, rfl⟩ := (others _ _ _).mp later
    refine ⟨token :: numerals, ?_, rfl⟩
    rw [Numerals, List.map_cons, List.map_cons, numeric, narrowed]
  · rintro ⟨numerals, narrowed, rfl⟩
    obtain ⟨token, numerals, rfl, numeric, narrowed⟩ := List.map_eq_cons_iff.mp narrowed
    have own : number (token :: numerals ++ rest) = .ok (first, numerals ++ rest) :=
      number_eq_ok.mpr ⟨token, numeric, rfl⟩
    have later : read (numerals ++ rest) = .ok (second, rest) :=
      (others _ _ _).mpr ⟨numerals, narrowed, rfl⟩
    exact bind_eq_ok.mpr ⟨_, own, bind_eq_ok.mpr ⟨_, later, rfl⟩⟩

/-- Two numbers are taken from two tokens. -/
theorem takes_pair : Takes pair fun (x, y) => [x, y] :=
  takes_number.after_number

/-- Three numbers are taken from three tokens. -/
theorem takes_triple : Takes triple fun (x, y, z) => [x, y, z] :=
  takes_pair.after_number

/-- Four numbers are taken from four tokens. -/
theorem takes_quadruple : Takes quadruple fun (x, y, z, w) => [x, y, z, w] :=
  takes_triple.after_number

/-- What stands behind a closing bracket is read behind it. -/
theorem closing_eq_ok : closing tokens = .ok rest ↔
    ∃ token, token.kind = .closeBracket ∧ tokens = token :: rest := by
  cases tokens with
  | nil => simp [closing]
  | cons token others =>
    rw [closing]
    split
    · simp_all
    · simp_all

/-- Tokens stay as they are unless a closing bracket is the first of them. -/
theorem notClosing_eq_ok : notClosing tokens = .ok rest ↔
    (∀ token ∈ tokens.head?, token.kind ≠ .closeBracket) ∧ tokens = rest := by
  cases tokens with
  | nil => simp [notClosing]
  | cons token others =>
    rw [notClosing]
    split
    · simp_all
    · simp_all

/-- A tuple that was read is a tuple. -/
theorem isTuple_of_bracketed (takes : Takes read list) {value : α}
    (accepted : bracketed read tokens = .ok (value, rest)) :
    ∃ tuple, IsTuple (list value) tuple ∧ tokens = tuple ++ rest := by
  unfold bracketed at accepted
  split at accepted
  · obtain ⟨numerals, narrowed, split⟩ := (takes _ _ _).mp accepted
    exact ⟨numerals, .bare narrowed, split⟩
  · split at accepted
    · rename_i opening _ opens
      obtain ⟨⟨value', between⟩, inside, accepted⟩ := bind_eq_ok.mp accepted
      obtain ⟨rest', behind, accepted⟩ := bind_eq_ok.mp accepted
      cases accepted
      obtain ⟨numerals, narrowed, rfl⟩ := (takes _ _ _).mp inside
      obtain ⟨closing, closes, rfl⟩ := closing_eq_ok.mp behind
      exact ⟨_, .bracketed opens narrowed closes, by simp⟩
    · obtain ⟨⟨value', between⟩, inside, accepted⟩ := bind_eq_ok.mp accepted
      obtain ⟨rest', unclosed, accepted⟩ := bind_eq_ok.mp accepted
      cases accepted
      obtain ⟨numerals, narrowed, split⟩ := (takes _ _ _).mp inside
      obtain ⟨-, rfl⟩ := notClosing_eq_ok.mp unclosed
      exact ⟨numerals, .bare narrowed, split⟩

/-- A tuple is read, in brackets or without them, if no closing bracket follows. -/
theorem bracketed_of_isTuple (takes : Takes read list) (value : α) (some_number : list value ≠ [])
    (isTuple : IsTuple (list value) tuple)
    (follows : ∀ token ∈ rest.head?, token.kind ≠ .closeBracket) :
    bracketed read (tuple ++ rest) = .ok (value, rest) := by
  cases isTuple with
  | bare narrowed =>
    obtain ⟨first, others, rfl⟩ : ∃ first others, tuple = first :: others := by
      refine List.exists_cons_of_ne_nil ?_
      rintro rfl
      exact some_number (List.map_eq_nil_iff.mp narrowed.symm)
    have inside : read (first :: others ++ rest) = .ok (value, rest) :=
      (takes _ _ _).mpr ⟨first :: others, narrowed, rfl⟩
    have behind : notClosing rest = .ok rest := notClosing_eq_ok.mpr ⟨follows, rfl⟩
    rw [List.cons_append, bracketed, if_neg (narrowed.kind_ne List.mem_cons_self).1]
    exact bind_eq_ok.mpr ⟨_, inside, bind_eq_ok.mpr ⟨_, behind, rfl⟩⟩
  | @bracketed opening closing numerals opens narrowed closes =>
    have inside : read (numerals ++ [closing] ++ rest) = .ok (value, closing :: rest) :=
      (takes _ _ _).mpr ⟨numerals, narrowed, List.append_assoc _ _ _⟩
    have behind : Command.closing (closing :: rest) = .ok rest :=
      closing_eq_ok.mpr ⟨closing, closes, rfl⟩
    rw [List.cons_append, Command.bracketed, if_pos opens]
    exact bind_eq_ok.mpr ⟨_, inside, bind_eq_ok.mpr ⟨_, behind, rfl⟩⟩

/-- No tuple of numbers starts with a closing bracket. -/
theorem IsTuple.head_ne (isTuple : IsTuple numbers tuple) :
    ∀ token ∈ tuple.head?, token.kind ≠ .closeBracket := by
  intro token first
  cases isTuple with
  | bare narrowed => exact (narrowed.kind_ne (List.mem_of_mem_head? first)).2
  | bracketed opens narrowed closes =>
    obtain rfl := Option.some.inj first
    rw [opens]
    nofun

/-! ### Without brackets -/

/-- The tokens that are not round brackets. -/
def withoutBrackets (tokens : List Token) : List Token :=
  tokens.filter fun token => token.kind ≠ .openBracket ∧ token.kind ≠ .closeBracket

/-- Brackets are taken out of each part of a line. -/
theorem withoutBrackets_append (first second : List Token) :
    withoutBrackets (first ++ second) = withoutBrackets first ++ withoutBrackets second :=
  List.filter_append _ _

/-- Words are no brackets. -/
theorem withoutBrackets_of_words {texts : List String}
    (words : tokens.map Token.word? = texts.map some) : withoutBrackets tokens = tokens := by
  refine List.filter_eq_self.mpr fun token listed => ?_
  have found : token.word? ∈ texts.map some := words ▸ List.mem_map_of_mem listed
  obtain ⟨text, -, same⟩ := List.mem_map.mp found
  obtain ⟨kind, -⟩ := Token.word?_eq_some_iff.mp same.symm
  simp [kind]

/-- Without its brackets, a tuple is its numbers. -/
theorem IsTuple.withoutBrackets (isTuple : IsTuple numbers tuple) :
    Numerals (withoutBrackets tuple) numbers := by
  have plain {numerals : List Token} (narrowed : Numerals numerals numbers) :
      Command.withoutBrackets numerals = numerals :=
    List.filter_eq_self.mpr fun token listed => by simpa using narrowed.kind_ne listed
  cases isTuple with
  | bare narrowed => rwa [plain narrowed]
  | @bracketed opening closing numerals opens narrowed closes =>
    have inside : Command.withoutBrackets (opening :: (numerals ++ [closing])) =
        Command.withoutBrackets numerals := by
      simp [Command.withoutBrackets, opens, closes]
    rwa [inside, plain narrowed]

end Command

end GpuScript

import GpuScript.Proofs.Test.Lines

/-!
# Lines with tolerances

A tolerance is written as a decimal number, with a percent sign behind it if it is a percentage
(`WritesTolerance`). After `tolerance` stand one of them or four, and nothing else is accepted there
(`Test.tolerance_iff_grammar`).

The reader looks one token ahead for a percent sign, and goes on to the next tolerance as long as
there is one; it turns away a fifth before it counts. What it has taken is therefore a list of
tolerances in any case, and the count decides at the end.
-/

namespace GpuScript

/-- A token is a decimal number: an integer, or a number with a fraction or out of the range of
integers. A hexadecimal integer is none. -/
inductive TokenKind.IsDecimal : TokenKind → Double → Prop
  | integer (value : Int64) : IsDecimal (.integer value) (Binary.ofInt value.toInt)
  | double (value : Double) : IsDecimal (.double value) value

/-- The decimal kinds are those with a decimal value. -/
theorem TokenKind.decimalDouble?_eq_some_iff {kind : TokenKind} {value : Double} :
    kind.decimalDouble? = some value ↔ kind.IsDecimal value := by
  constructor
  · intro found
    cases kind with
    | integer own =>
      obtain rfl := Option.some.inj found
      exact .integer own
    | double own =>
      obtain rfl := Option.some.inj found
      exact .double own
    | _ => cases found
  · rintro (own | own) <;> rfl

/-- A decimal number is no percent sign. -/
theorem TokenKind.IsDecimal.ne_percent {kind : TokenKind} {value : Double}
    (decimal : kind.IsDecimal value) : kind ≠ .percent := by
  rcases decimal with own | own <;> nofun

/-- The tokens of a tolerance. -/
inductive WritesTolerance : Tolerance → List Token → Prop
  /-- A distance is a number. -/
  | distance {number : Token} {value : Double} (decimal : number.kind.IsDecimal value) :
    WritesTolerance ⟨value, false⟩ [number]
  /-- A percentage is a number and a percent sign. -/
  | percentage {number sign : Token} {value : Double} (decimal : number.kind.IsDecimal value)
    (signed : sign.kind = .percent) : WritesTolerance ⟨value, true⟩ [number, sign]

/-- The tokens of tolerances that stand one behind another. -/
def WritesTolerances (tolerances : List Tolerance) (tokens : List Token) : Prop :=
  ∃ entries, List.Forall₂ WritesTolerance tolerances entries ∧ tokens = entries.flatten

namespace WritesTolerances

variable {tolerances : List Tolerance} {tokens : List Token} {number sign : Token} {value : Double}

/-- Nothing is written for no tolerances. -/
theorem nil : WritesTolerances [] [] :=
  ⟨[], .nil, rfl⟩

/-- A distance stands in front of tolerances. -/
theorem distance (later : WritesTolerances tolerances tokens)
    (decimal : number.kind.IsDecimal value) :
    WritesTolerances (⟨value, false⟩ :: tolerances) (number :: tokens) := by
  obtain ⟨entries, each, rfl⟩ := later
  exact ⟨[number] :: entries, .cons (.distance decimal) each, rfl⟩

/-- A percentage stands in front of tolerances. -/
theorem percentage (later : WritesTolerances tolerances tokens)
    (decimal : number.kind.IsDecimal value) (signed : sign.kind = .percent) :
    WritesTolerances (⟨value, true⟩ :: tolerances) (number :: sign :: tokens) := by
  obtain ⟨entries, each, rfl⟩ := later
  exact ⟨[number, sign] :: entries, .cons (.percentage decimal signed) each, rfl⟩

/-- Tolerances do not open with a percent sign. -/
theorem head_ne (written : WritesTolerances tolerances tokens) :
    ∀ token ∈ tokens.head?, token.kind ≠ .percent := by
  obtain ⟨entries, each, rfl⟩ := written
  intro token first
  cases each with
  | nil => cases first
  | cons own _ =>
    cases own with
    | distance decimal =>
      obtain rfl := Option.some.inj first
      exact decimal.ne_percent
    | percentage decimal _ =>
      obtain rfl := Option.some.inj first
      exact decimal.ne_percent

end WritesTolerances

namespace Command

variable {tolerances : List Tolerance} {tokens : List Token} {count : Nat}

/-- What was read as tolerances writes them, and there are no more than four with those before. -/
theorem writesTolerances_of_toleranceList (accepted : toleranceList count tokens = .ok tolerances)
    (few : count ≤ 4) : WritesTolerances tolerances tokens ∧ count + tolerances.length ≤ 4 := by
  fun_induction toleranceList count tokens generalizing tolerances with
  | case1 count =>
    obtain rfl := Except.ok.inj accepted
    exact ⟨.nil, few⟩
  | case2 => cases accepted
  | case3 => cases accepted
  | case4 count token value read room =>
    obtain rfl := Except.ok.inj accepted
    have decimal := TokenKind.decimalDouble?_eq_some_iff.mp read
    exact ⟨WritesTolerances.nil.distance decimal, Nat.lt_of_not_le room⟩
  | case5 count token value read room sign after signed ih =>
    obtain ⟨others, later, rfl⟩ := map_eq_ok.mp accepted
    obtain ⟨written, fits⟩ := ih later (Nat.lt_of_not_le room)
    have decimal := TokenKind.decimalDouble?_eq_some_iff.mp read
    refine ⟨written.percentage decimal signed, ?_⟩
    rw [List.length_cons]
    omega
  | case6 count token value read room sign after plain ih =>
    obtain ⟨others, later, rfl⟩ := map_eq_ok.mp accepted
    obtain ⟨written, fits⟩ := ih later (Nat.lt_of_not_le room)
    have decimal := TokenKind.decimalDouble?_eq_some_iff.mp read
    refine ⟨written.distance decimal, ?_⟩
    rw [List.length_cons]
    omega

/-- A distance in front of tokens that do not open with a percent sign. -/
theorem toleranceList_distance {number : Token} {value : Double}
    (decimal : number.kind.IsDecimal value) (room : count < 4)
    (plain : ∀ token ∈ tokens.head?, token.kind ≠ .percent) :
    toleranceList count (number :: tokens) =
      (toleranceList (count + 1) tokens).map (⟨value, false⟩ :: ·) := by
  rw [toleranceList, TokenKind.decimalDouble?_eq_some_iff.mpr decimal]
  refine (if_neg (Nat.not_le_of_lt room)).trans ?_
  cases tokens with
  | nil => rfl
  | cons token rest => exact if_neg (plain token rfl)

/-- A percentage in front of tokens. -/
theorem toleranceList_percentage {number sign : Token} {value : Double}
    (decimal : number.kind.IsDecimal value) (signed : sign.kind = .percent) (room : count < 4) :
    toleranceList count (number :: sign :: tokens) =
      (toleranceList (count + 1) tokens).map (⟨value, true⟩ :: ·) := by
  rw [toleranceList, TokenKind.decimalDouble?_eq_some_iff.mpr decimal]
  exact (if_neg (Nat.not_le_of_lt room)).trans (if_pos signed)

/-- Tolerances are read as they are written, no more than four of them. -/
theorem toleranceList_of_writesTolerances (written : WritesTolerances tolerances tokens)
    (few : count + tolerances.length ≤ 4) : toleranceList count tokens = .ok tolerances := by
  obtain ⟨entries, each, rfl⟩ := written
  induction each generalizing count with
  | nil => rfl
  | @cons tolerance entry tolerances entries own each ih =>
    rw [List.length_cons] at few
    have later : WritesTolerances tolerances entries.flatten := ⟨entries, each, rfl⟩
    have read : toleranceList (count + 1) entries.flatten = .ok tolerances := ih (by omega)
    have step : toleranceList count (entry ++ entries.flatten) =
        (toleranceList (count + 1) entries.flatten).map (tolerance :: ·) := by
      cases own with
      | distance decimal => exact toleranceList_distance decimal (by omega) later.head_ne
      | percentage decimal signed => exact toleranceList_percentage decimal signed (by omega)
    rw [List.flatten_cons, step, read]
    rfl

/-- A tolerance command is read from one tolerance or four. -/
theorem tolerance_eq_ok {operation : Operation} :
    tolerance tokens = .ok operation ↔
      ∃ tolerances, operation = .tolerance tolerances ∧ WritesTolerances tolerances tokens ∧
        (tolerances.length = 1 ∨ tolerances.length = 4) := by
  constructor
  · intro accepted
    obtain ⟨tolerances, read, counted⟩ := bind_eq_ok.mp accepted
    obtain ⟨written, -⟩ := writesTolerances_of_toleranceList read (Nat.zero_le 4)
    split at counted
    · cases counted
    · rename_i one
      obtain rfl := Except.ok.inj counted
      exact ⟨tolerances, rfl, written, .inl one⟩
    · rename_i four
      obtain rfl := Except.ok.inj counted
      exact ⟨tolerances, rfl, written, .inr four⟩
    · cases counted
  · rintro ⟨tolerances, rfl, written, count⟩
    have read : toleranceList 0 tokens = .ok tolerances :=
      toleranceList_of_writesTolerances written (by omega)
    refine bind_eq_ok.mpr ⟨tolerances, read, ?_⟩
    rcases count with one | four
    · simp only [one]
    · simp only [four]

end Command

namespace Test

open Command

/-- A line with tolerances is read as one. -/
theorem readLine_of_tolerance {line : TokenLine} (named : line.first.word? = some "tolerance")
    (pipeline : Pipeline) :
    readLine pipeline line = ⟨pipeline, (tolerance line.rest).map some⟩ := by
  have command : Property.ofName? "tolerance" = none := by decide +kernel
  simp only [readLine, named, command, readOperation]

/-- A line that opens with `tolerance` is accepted if and only if one tolerance or four are written
behind it, and then its operation has these tolerances. On every other such line reading ends
without a command. -/
theorem tolerance_iff_grammar {line : TokenLine} (named : line.first.word? = some "tolerance")
    (pipeline : Pipeline) :
    (∀ operation, (readLine pipeline line).operation = .ok operation ↔
      ∃ tolerances, operation = some (.tolerance tolerances) ∧
        WritesTolerances tolerances line.rest ∧
        (tolerances.length = 1 ∨ tolerances.length = 4)) ∧
    ((∀ tolerances, WritesTolerances tolerances line.rest →
        tolerances.length ≠ 1 ∧ tolerances.length ≠ 4) →
      ∃ cause, ∀ later, readLines pipeline (line :: later) =
        ⟨[], pipeline, some ⟨line.line, cause⟩⟩) := by
  rw [readLine_of_tolerance named]
  constructor
  · intro operation
    rw [map_eq_ok]
    constructor
    · rintro ⟨own, accepted, rfl⟩
      obtain ⟨tolerances, rfl, written, count⟩ := tolerance_eq_ok.mp accepted
      exact ⟨tolerances, rfl, written, count⟩
    · rintro ⟨tolerances, rfl, written, count⟩
      exact ⟨_, tolerance_eq_ok.mpr ⟨tolerances, rfl, written, count⟩, rfl⟩
  · intro others
    cases read : tolerance line.rest with
    | ok operation =>
      obtain ⟨tolerances, -, written, one | four⟩ := tolerance_eq_ok.mp read
      · exact absurd one (others tolerances written).1
      · exact absurd four (others tolerances written).2
    | error cause =>
      refine ⟨cause, fun later => ?_⟩
      rw [readLines, readLine_of_tolerance named, read]
      rfl

/-- Four tolerances on two physical lines, two of them percentages. -/
def mixedTolerances : String :=
  "tolerance 0.5% 2, 3.9% \\\n -7\n"

/-- A fifth tolerance, and nothing else that is wrong. -/
def fiveTolerances : String :=
  "tolerance 1% 2 3 4% 5\n"

/-- The first line is accepted for what it writes, and the second is refused. -/
theorem tolerance_iff_grammar_mixedTolerances :
    ∃ line other, TokenLine.ofText mixedTolerances 1 = [line] ∧
      TokenLine.ofText fiveTolerances 1 = [other] ∧
      line.first.word? = some "tolerance" ∧ other.first.word? = some "tolerance" ∧
      (∃ tolerances, (readLine .default line).operation = .ok (some (.tolerance tolerances)) ∧
        WritesTolerances tolerances line.rest ∧
        tolerances.map Tolerance.isPercent = [true, false, true, false]) ∧
      ∃ cause, readLines .default [other] = ⟨[], .default, some ⟨1, cause⟩⟩ := by
  obtain ⟨line, single⟩ : ∃ line, TokenLine.ofText mixedTolerances 1 = [line] :=
    List.length_eq_one_iff.mp (by decide +kernel)
  obtain ⟨other, other_single⟩ : ∃ line, TokenLine.ofText fiveTolerances 1 = [line] :=
    List.length_eq_one_iff.mp (by decide +kernel)
  have facts : ∀ line ∈ TokenLine.ofText mixedTolerances 1,
      ∀ other ∈ TokenLine.ofText fiveTolerances 1,
      (line.first.word? = some "tolerance" ∧ other.first.word? = some "tolerance") ∧
      other.line = 1 ∧
      (readLine .default line).operation = .ok (some (.tolerance
        [⟨Binary.round .double false 1 2, true⟩, ⟨Binary.ofInt 2, false⟩,
          ⟨Binary.round .double false 39 10, true⟩, ⟨Binary.ofInt (-7), false⟩])) ∧
      (readLine .default other).operation.isOk = false := by decide +kernel
  obtain ⟨⟨named, other_named⟩, number, accepted, refused⟩ :=
    facts line (by simp [single]) other (by simp [other_single])
  obtain ⟨tolerances, same, written, -⟩ :=
    ((tolerance_iff_grammar named .default).1 _).mp accepted
  cases same
  have unwritten : ∀ tolerances, WritesTolerances tolerances other.rest →
      tolerances.length ≠ 1 ∧ tolerances.length ≠ 4 := by
    intro tolerances written
    refine not_or.mp fun count => ?_
    have read := ((tolerance_iff_grammar other_named .default).1 _).mpr
      ⟨tolerances, rfl, written, count⟩
    rw [read] at refused
    cases refused
  obtain ⟨cause, reading⟩ := (tolerance_iff_grammar other_named .default).2 unwritten
  exact ⟨line, other, single, other_single, named, other_named, ⟨_, accepted, written, rfl⟩, cause,
    number ▸ reading []⟩

end Test

end GpuScript

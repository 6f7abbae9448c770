import Mathlib.Data.List.Forall2

/-!
# Results

What a result that was made from other results tells about them, and what a list of results tells
about the list that they were made from.
-/

namespace GpuScript

variable {ε α β : Type}

/-- A value goes on to the next step. -/
@[simp]
theorem ok_bind (value : α) (next : α → Except ε β) : (.ok value >>= next) = next value :=
  rfl

/-- A value comes from a value of the first step. -/
theorem bind_eq_ok {result : Except ε α} {next : α → Except ε β} {value : β} :
    (result >>= next) = .ok value ↔ ∃ first, result = .ok first ∧ next first = .ok value := by
  cases result with
  | error error => simp [bind, Except.bind]
  | ok first => simp [bind, Except.bind]

/-- An error comes from one of the steps. -/
theorem bind_eq_error {result : Except ε α} {next : α → Except ε β} {error : ε} :
    (result >>= next) = .error error ↔
      result = .error error ∨ ∃ first, result = .ok first ∧ next first = .error error := by
  cases result with
  | error error => simp [bind, Except.bind]
  | ok first => simp [bind, Except.bind]

/-- A value that was changed comes from a value. -/
theorem map_eq_ok {result : Except ε α} {change : α → β} {value : β} :
    result.map change = .ok value ↔ ∃ first, result = .ok first ∧ change first = value := by
  cases result with
  | error error => simp [Except.map]
  | ok first => simp [Except.map]

/-- Two changes of a value are one. -/
theorem map_map {γ : Type} (result : Except ε α) (first : α → β) (second : β → γ) :
    (result.map first).map second = result.map fun value => second (first value) := by
  cases result <;> rfl

/-- An error is not changed with the value. -/
theorem map_eq_error {result : Except ε α} {change : α → β} {error : ε} :
    result.map change = .error error ↔ result = .error error := by
  cases result with
  | error error => simp [Except.map]
  | ok first => simp [Except.map]

/-- If a list is refused, one of its elements is. -/
theorem exists_of_mapM_eq_error {read : α → Except ε β} {elements : List α} {error : ε}
    (refused : elements.mapM read = .error error) :
    ∃ element ∈ elements, read element = .error error := by
  induction elements with
  | nil => cases refused
  | cons first rest ih =>
    rw [List.mapM_cons, bind_eq_error] at refused
    rcases refused with own | ⟨value, _, refused⟩
    · exact ⟨first, List.mem_cons_self, own⟩
    · rcases bind_eq_error.mp refused with others | ⟨values, _, impossible⟩
      · obtain ⟨element, listed, found⟩ := ih others
        exact ⟨element, List.mem_cons_of_mem _ listed, found⟩
      · cases impossible

/-- The result with its error and its value changed. -/
def mapBoth {δ : Type} (onError : ε → δ) (onValue : α → β) : Except ε α → Except δ β
  | .error error => .error (onError error)
  | .ok value => .ok (onValue value)

/-- A value on the one side is a value on the other side. -/
theorem mapBoth_eq_ok {δ : Type} {onError : ε → δ} {onValue : α → β} {result : Except ε α}
    {value : β} :
    mapBoth onError onValue result = .ok value ↔
      ∃ first, result = .ok first ∧ onValue first = value := by
  cases result <;> simp [mapBoth]

/-- An error on the one side is an error on the other side. -/
theorem mapBoth_eq_error {δ : Type} {onError : ε → δ} {onValue : α → β}
    {result : Except ε α} {error : δ} :
    mapBoth onError onValue result = .error error ↔
      ∃ first, result = .error first ∧ onError first = error := by
  cases result <;> simp [mapBoth]

/-- Steps that agree up to a change of their results follow one another up to it. -/
theorem bind_mapBoth {δ α' β' : Type} {onError : ε → δ} {onFirst : α → α'} {onLast : β → β'}
    (result : Except ε α) {next : α → Except ε β} {other : α' → Except δ β'}
    (agree : ∀ value, other (onFirst value) = mapBoth onError onLast (next value)) :
    (mapBoth onError onFirst result >>= other) = mapBoth onError onLast (result >>= next) := by
  cases result with
  | error error => rfl
  | ok value => exact agree value

/-- Lists whose elements give the same results up to a change of the errors do so as a whole. -/
theorem mapM_map_mapBoth {δ α' : Type} {onError : ε → δ} {image : α → α'} {read : α → Except ε β}
    {other : α' → Except δ β} (agree : ∀ element, other (image element) =
      mapBoth onError id (read element)) (elements : List α) :
    (elements.map image).mapM other = mapBoth onError id (elements.mapM read) := by
  induction elements with
  | nil => rfl
  | cons first rest ih =>
    rw [List.map_cons, List.mapM_cons, List.mapM_cons, agree, ih]
    refine bind_mapBoth _ fun value => ?_
    exact bind_mapBoth _ fun values => rfl

/-- Lists that are taken together are gone through one after the other. -/
theorem mapM_flatMap {γ : Type} (gather : α → List β) (read : β → Except ε γ)
    (elements : List α) :
    (elements.flatMap gather).mapM read =
      (elements.mapM fun element => (gather element).mapM read).map List.flatten := by
  induction elements with
  | nil => rfl
  | cons element rest ih =>
    rw [List.flatMap_cons, List.mapM_append, ih, List.mapM_cons]
    cases (gather element).mapM read with
    | error error => rfl
    | ok values => cases rest.mapM fun element => (gather element).mapM read <;> rfl

/-- A list that is accepted has a value for each of its elements. -/
theorem length_of_mapM_eq_ok {read : α → Except ε β} {elements : List α} {values : List β}
    (accepted : elements.mapM read = .ok values) : values.length = elements.length := by
  induction elements generalizing values with
  | nil =>
    obtain rfl := Except.ok.inj accepted
    rfl
  | cons first rest ih =>
    rw [List.mapM_cons] at accepted
    obtain ⟨value, _, accepted⟩ := bind_eq_ok.mp accepted
    obtain ⟨others, later, accepted⟩ := bind_eq_ok.mp accepted
    obtain rfl := Except.ok.inj accepted
    rw [List.length_cons, List.length_cons, ih later]

/-- A list that is accepted is empty when its values are. -/
theorem isEmpty_of_mapM_eq_ok {read : α → Except ε β} {elements : List α}
    {values : List β} (accepted : elements.mapM read = .ok values) :
    values.isEmpty = elements.isEmpty := by
  have same := length_of_mapM_eq_ok accepted
  cases values <;> cases elements <;> simp_all

/-- A list that is accepted has a value for each of its elements, in order. -/
theorem forall₂_of_mapM_eq_ok {read : α → Except ε β} {elements : List α}
    {values : List β} (accepted : elements.mapM read = .ok values) :
    List.Forall₂ (fun element value => read element = .ok value) elements values := by
  induction elements generalizing values with
  | nil =>
    rw [← Except.ok.inj accepted]
    exact .nil
  | cons first others ih =>
    rw [List.mapM_cons] at accepted
    obtain ⟨value, own, accepted⟩ := bind_eq_ok.mp accepted
    obtain ⟨more, later, accepted⟩ := bind_eq_ok.mp accepted
    rw [← Except.ok.inj accepted]
    exact .cons own (ih later)

/-- A list is accepted for values that its elements are accepted for one by one. -/
theorem mapM_eq_ok_iff {read : α → Except ε β} {elements : List α} {values : List β} :
    elements.mapM read = .ok values ↔
      List.Forall₂ (fun element value => read element = .ok value) elements values := by
  refine ⟨forall₂_of_mapM_eq_ok, fun each => ?_⟩
  induction each with
  | nil => rfl
  | cons own _ ih =>
    rw [List.mapM_cons]
    exact bind_eq_ok.mpr ⟨_, own, bind_eq_ok.mpr ⟨_, ih, rfl⟩⟩

/-- A list is refused for the first of its elements that is. -/
theorem mapM_eq_error_iff {read : α → Except ε β} {elements : List α} {error : ε} :
    elements.mapM read = .error error ↔
      ∃ before element after, elements = before ++ element :: after ∧
        (∀ other ∈ before, ∃ value, read other = .ok value) ∧ read element = .error error := by
  induction elements with
  | nil => simp [List.mapM_nil, pure, Except.pure]
  | cons first rest ih =>
    rw [List.mapM_cons, bind_eq_error]
    constructor
    · rintro (own | ⟨value, own, refused⟩)
      · exact ⟨[], first, rest, rfl, nofun, own⟩
      · rcases bind_eq_error.mp refused with later | ⟨_, _, impossible⟩
        · obtain ⟨before, element, after, rfl, clean, found⟩ := ih.mp later
          exact ⟨first :: before, element, after, rfl,
            List.forall_mem_cons.mpr ⟨⟨value, own⟩, clean⟩, found⟩
        · cases impossible
    · rintro ⟨before, element, after, split, clean, found⟩
      cases before with
      | nil =>
        obtain ⟨rfl, rfl⟩ := List.cons.inj split
        exact .inl found
      | cons other before =>
        obtain ⟨rfl, rfl⟩ := List.cons.inj split
        obtain ⟨⟨value, own⟩, clean⟩ := List.forall_mem_cons.mp clean
        have later := ih.mpr ⟨before, element, after, rfl, clean, found⟩
        exact .inr ⟨value, own, bind_eq_error.mpr (.inl later)⟩

/-- Two values, or the error of the first result that is none. -/
def both (first : Except ε α) (second : Except ε β) : Except ε (α × β) :=
  first >>= fun one => second.map fun two => (one, two)

/-- A value that was found, or an error. -/
def orError (error : ε) : Option α → Except ε α
  | some value => .ok value
  | none => .error error

/-- A result that is changed is a value if it was one. -/
@[simp]
theorem isOk_map (result : Except ε α) (change : α → β) :
    (result.map change).isOk = result.isOk := by
  cases result <;> rfl

/-- Two results are two values if each is one. -/
@[simp]
theorem isOk_both (first : Except ε α) (second : Except ε β) :
    (both first second).isOk = (first.isOk && second.isOk) := by
  cases first with
  | error error => rfl
  | ok value => cases second <;> rfl

/-- A list is accepted if each of its elements is. -/
theorem isOk_mapM {read : α → Except ε β} {elements : List α}
    (each : ∀ element ∈ elements, (read element).isOk = true) :
    (elements.mapM read).isOk = true := by
  induction elements with
  | nil => rfl
  | cons first rest ih =>
    obtain ⟨own, others⟩ := List.forall_mem_cons.mp each
    have later := ih others
    rw [List.mapM_cons]
    cases one : read first with
    | error error => rw [one] at own; cases own
    | ok value =>
      cases more : rest.mapM read with
      | error error => rw [more] at later; cases later
      | ok values => rfl

/-- A list whose elements pass a check or are refused stays as it is, or is refused for the first
element that does not pass. -/
theorem mapM_eq_of_check {check : α → Bool} {read : α → Except ε α} {refuse : α → ε}
    {elements : List α} (each : ∀ element ∈ elements,
      read element = if check element then .ok element else .error (refuse element)) :
    elements.mapM read = match elements.find? fun element => !check element with
      | none => .ok elements
      | some element => .error (refuse element) := by
  induction elements with
  | nil => rfl
  | cons first rest ih =>
    obtain ⟨own, others⟩ := List.forall_mem_cons.mp each
    rw [List.mapM_cons, own, ih others]
    by_cases passes : check first = true
    · rw [if_pos passes, List.find?_cons_of_neg (by simp [passes])]
      cases rest.find? fun element => !check element <;> rfl
    · rw [if_neg passes, List.find?_cons_of_pos (by simp [passes])]
      rfl

/-- A list is gone through from its first element. -/
theorem mapM_cons_of_some {read : α → Option β} {first : α} {value : β}
    (own : read first = some value) (rest : List α) :
    (first :: rest).mapM read = (rest.mapM read).map (value :: ·) := by
  rw [List.mapM_cons, own]
  cases rest.mapM read <;> rfl

/-- A list is gone through up to the first element without a value. -/
theorem mapM_cons_of_none {read : α → Option β} {first : α} (own : read first = none)
    (rest : List α) : (first :: rest).mapM read = none := by
  rw [List.mapM_cons, own]
  rfl

/-- In lists that are related element by element, every element on the right has one on the left. -/
theorem exists_of_mem_right {related : α → β → Prop} {left : List α} {right : List β}
    (all : List.Forall₂ related left right) {second : β} (listed : second ∈ right) :
    ∃ first ∈ left, related first second := by
  induction all with
  | nil => cases listed
  | cons own _ ih =>
    rcases List.mem_cons.mp listed with rfl | later
    · exact ⟨_, List.mem_cons_self, own⟩
    · obtain ⟨first, among, found⟩ := ih later
      exact ⟨first, List.mem_cons_of_mem _ among, found⟩

/-- In lists that are related element by element, every element on the left has one on the
right. -/
theorem exists_of_mem_left {related : α → β → Prop} {left : List α} {right : List β}
    (all : List.Forall₂ related left right) {first : α} (listed : first ∈ left) :
    ∃ second ∈ right, related first second :=
  exists_of_mem_right all.flip listed

/-- Lists of one element each, taken together, are related to a list as their elements are. -/
theorem forall₂_flatten {related : α → List β → Prop} {alike : α → β → Prop}
    {elements : List α} {parts : List (List β)}
    (single : ∀ element ∈ elements, ∀ part, related element part →
      ∃ value, part = [value] ∧ alike element value)
    (all : List.Forall₂ related elements parts) : List.Forall₂ alike elements parts.flatten := by
  induction all with
  | nil => exact .nil
  | cons own _ ih =>
    obtain ⟨first, others⟩ := List.forall_mem_cons.mp single
    obtain ⟨value, rfl, found⟩ := first _ own
    exact .cons found (ih others)

/-- In lists that are related element by element, an element on the left has its counterpart at the
same place on the right. -/
theorem exists_getElem?_of_forall₂ {related : α → β → Prop} {left : List α} {right : List β}
    (all : List.Forall₂ related left right) {place : Nat} {first : α}
    (stands : left[place]? = some first) :
    ∃ second, right[place]? = some second ∧ related first second := by
  obtain ⟨inside, rfl⟩ := List.getElem?_eq_some_iff.mp stands
  have same := all.length_eq
  exact ⟨right[place], List.getElem?_eq_getElem (by omega), all.get inside (by omega)⟩

end GpuScript

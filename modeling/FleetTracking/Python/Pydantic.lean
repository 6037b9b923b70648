import FleetTracking.Python.Values

/-!
# Models that validate their fields

A pydantic model reads its fields out of a JSON object, converts and checks each one, and
reports the errors of all fields together.  How a JSON value is converted to a `str`, an
`int` and so on is `Coerce`, a parameter: the conversions are pydantic's own.  What is
checked after that is stated here, and a value that passed carries its check in its type.
-/

namespace Pydantic

open Python

/-- What is wrong with a field. -/
inductive ErrorKind
  | missing
  | type (expected : String)
  | stringTooShort (min : Nat)
  | stringTooLong (max : Nat)
  | stringPattern (pattern : String)
  | tooShort (min : Nat)
  | tooLong (max : Nat)
  | greaterThanEqual (bound : ℚ)
  | lessThanEqual (bound : ℚ)
  | valueError (message : String)

/-- An error and the path of the field it is about. -/
structure FieldError where
  loc : List String
  kind : ErrorKind

/-- A value, or every error found on the way to it. -/
abbrev Validated (α : Type) := Except (List FieldError) α

/-- The conversions of pydantic's lax mode; `none` is its type error. -/
structure Coerce where
  str : Json → Option String
  int : Json → Option Int
  float : Json → Option Number
  bool : Json → Option Bool
  datetime : Json → Option Datetime
  email : Json → Option String

/-- Conversions that take a value only when it has the type already; JSON has no datetimes. -/
def Coerce.asIs : Coerce where
  str | .str s => some s | _ => none
  int | .int n => some n | _ => none
  float | .float x => some x | _ => none
  bool | .bool b => some b | _ => none
  datetime _ := none
  email | .str s => some s | _ => none

namespace Validated

variable {α β : Type}

/-- A model none of whose fields has been read yet. -/
def model (build : α) : Validated α := .ok build

/-- Read one more field; errors add up. -/
def field (build : Validated (α → β)) (value : Validated α) : Validated β :=
  match build, value with
  | .ok f, .ok a => .ok (f a)
  | .ok _, .error e => .error e
  | .error e, .ok _ => .error e
  | .error e, .error e' => .error (e ++ e')

/-- Put the errors under the field `key`. -/
def under (key : String) : Validated α → Validated α
  | .ok a => .ok a
  | .error e => .error (e.map fun error => { error with loc := key :: error.loc })

end Validated

/-! ## Fields -/

section Fields

variable {α : Type}

/-- A field without a default. -/
def required (key : String) (check : Json → Validated α) (body : Json) : Validated α :=
  match body.field? key with
  | some value => (check value).under key
  | none => .error [⟨[key], .missing⟩]

/-- A field with a default, which is not checked. -/
def defaulted (key : String) (default : α) (check : Json → Validated α) (body : Json) :
    Validated α :=
  match body.field? key with
  | some value => (check value).under key
  | none => .ok default

/-- `T | None` -/
def nullable (check : Json → Validated α) : Json → Validated (Option α)
  | .null => .ok none
  | value => (check value).map some

/-- A field of a partial update: left out, explicitly null, or given. -/
inductive Patch (α : Type)
  | unset
  | null
  | value (a : α)
deriving DecidableEq

/-- What the field holds on the model, where a field that was left out is `None`. -/
def Patch.toOption : Patch α → Option α
  | .value a => some a
  | _ => none

/-- `T | None = None`, remembering whether the field was given. -/
def patch (key : String) (check : Json → Validated α) (body : Json) : Validated (Patch α) :=
  match body.field? key with
  | some .null => .ok .null
  | some value => Validated.under key ((check value).map Patch.value)
  | none => .ok .unset

end Fields

/-! ## Checks -/

/-- A conversion with its type error. -/
def typed {α : Type} (expected : String) (convert : Json → Option α) (value : Json) :
    Validated α :=
  match convert value with
  | some a => .ok a
  | none => .error [⟨[], .type expected⟩]

/-- `str = Field(min_length=lo, max_length=hi)` -/
abbrev Text (lo hi : Nat) := {s : String // lo ≤ s.length ∧ s.length ≤ hi}

def text (c : Coerce) (lo hi : Nat) (value : Json) : Validated (Text lo hi) :=
  match typed "str" c.str value with
  | .error e => .error e
  | .ok s =>
      if short : s.length < lo then .error [⟨[], .stringTooShort lo⟩]
      else if long : hi < s.length then .error [⟨[], .stringTooLong hi⟩]
      else .ok ⟨s, not_lt.mp short, not_lt.mp long⟩

/-- `str = Field(min_length=lo)` -/
def minLength (c : Coerce) (lo : Nat) (value : Json) : Validated {s : String // lo ≤ s.length} :=
  match typed "str" c.str value with
  | .error e => .error e
  | .ok s => if h : lo ≤ s.length then .ok ⟨s, h⟩ else .error [⟨[], .stringTooShort lo⟩]

/-- `float = Field(ge=lo, le=hi)`: accepted when both comparisons hold, so NaN is not. -/
abbrev Between (lo hi : ℚ) :=
  {x : Number // (Number.fin lo).le x = true ∧ x.le (.fin hi) = true}

/-- The upper bound is checked first: NaN is reported against it. -/
def checkBetween (lo hi : ℚ) (x : Number) : Validated (Between lo hi) :=
  if below : x.le (.fin hi) = true then
    if above : (Number.fin lo).le x = true then .ok ⟨x, above, below⟩
    else .error [⟨[], .greaterThanEqual lo⟩]
  else .error [⟨[], .lessThanEqual hi⟩]

def between (c : Coerce) (lo hi : ℚ) (value : Json) : Validated (Between lo hi) :=
  match typed "float" c.float value with
  | .error e => .error e
  | .ok x => checkBetween lo hi x

/-- `int = Field(ge=lo)` -/
abbrev AtLeast (lo : Int) := {n : Int // lo ≤ n}

def atLeast (c : Coerce) (lo : Int) (value : Json) : Validated (AtLeast lo) :=
  match typed "int" c.int value with
  | .error e => .error e
  | .ok n => if h : lo ≤ n then .ok ⟨n, h⟩ else .error [⟨[], .greaterThanEqual lo⟩]

/-- `int = Field(ge=lo, le=hi)` -/
def within (c : Coerce) (lo hi : Int) (value : Json) : Validated {n : Int // lo ≤ n ∧ n ≤ hi} :=
  match typed "int" c.int value with
  | .error e => .error e
  | .ok n =>
      if high : hi < n then .error [⟨[], .lessThanEqual hi⟩]
      else if low : n < lo then .error [⟨[], .greaterThanEqual lo⟩]
      else .ok ⟨n, not_lt.mp low, not_lt.mp high⟩

/-- The items of a list, with the index of each in its errors' paths. -/
def items {α : Type} (check : Json → Validated α) : Nat → List Json → Validated (List α)
  | _, [] => .ok []
  | i, value :: values =>
      Validated.field (Except.map List.cons ((check value).under (toString i)))
        (items check (i + 1) values)

/-- `list[T] = Field(min_length=lo, max_length=hi)` -/
abbrev Sized (lo hi : Nat) (α : Type) := {l : List α // lo ≤ l.length ∧ l.length ≤ hi}

def sized {α : Type} (lo hi : Nat) (check : Json → Validated α) : Json → Validated (Sized lo hi α)
  | .arr values =>
      if hi < values.length then .error [⟨[], .tooLong hi⟩]
      else
        match items check 0 values with
        | .error e => .error e
        | .ok l =>
            if short : l.length < lo then .error [⟨[], .tooShort lo⟩]
            else if long : hi < l.length then .error [⟨[], .tooLong hi⟩]
            else .ok ⟨l, not_lt.mp short, not_lt.mp long⟩
  | _ => .error [⟨[], .type "list"⟩]

/-! ## What passes -/

section

variable {α : Type} {c : Coerce} {lo hi : ℚ} {value : Json}

theorem field_eq_ok {β : Type} {build : Validated (α → β)} {field : Validated α} {b : β}
    (passed : build.field field = .ok b) : ∃ f a, build = .ok f ∧ field = .ok a ∧ f a = b := by
  unfold Validated.field at passed
  split at passed
  · next f a => exact ⟨f, a, rfl, rfl, Except.ok.inj passed⟩
  · cases passed
  · cases passed
  · cases passed

theorem required_eq_ok {key : String} {check : Json → Validated α} {body : Json} {a : α}
    (passed : required key check body = .ok a) :
    ∃ value, body.field? key = some value ∧ check value = .ok a := by
  unfold required at passed
  split at passed
  · next value has =>
      cases checked : check value with
      | ok a' =>
          rw [checked] at passed
          exact ⟨value, has, checked.trans passed⟩
      | error e => rw [checked] at passed; cases passed
  · cases passed

theorem convert_of_typed {expected : String} {convert : Json → Option α} {a : α}
    (passed : typed expected convert value = .ok a) : convert value = some a := by
  unfold typed at passed
  split at passed
  · next converted => rw [converted, Except.ok.inj passed]
  · cases passed

theorem required_of_field {key : String} {check : Json → Validated α} {body : Json} {a : α}
    (has : body.field? key = some value) (passes : check value = .ok a) :
    required key check body = .ok a := by
  rw [required, has]
  dsimp only
  rw [passes, Validated.under]

theorem typed_of_convert {expected : String} {convert : Json → Option α} {a : α}
    (converts : convert value = some a) : typed expected convert value = .ok a := by
  rw [typed, converts]

theorem checkBetween_val (x : Between lo hi) : checkBetween lo hi x.1 = .ok x := by
  rw [checkBetween, dif_pos x.2.2, dif_pos x.2.1]

theorem between_of_convert {x : Between lo hi} (converts : c.float value = some x.1) :
    between c lo hi value = .ok x := by
  rw [between, typed_of_convert converts]
  exact checkBetween_val x

theorem atLeast_of_convert {lo : Int} {n : AtLeast lo} (converts : c.int value = some n.1) :
    atLeast c lo value = .ok n := by
  rw [atLeast, typed_of_convert converts]
  exact dif_pos n.2

/-- What `ge` and `le` let through. -/
theorem inRange_iff {x : Number} :
    InRange lo hi x ↔ (Number.fin lo).le x = true ∧ x.le (.fin hi) = true := by
  constructor
  · rintro ⟨q, rfl, above, below⟩
    exact ⟨Number.fin_le.mpr above, Number.fin_le.mpr below⟩
  · rintro ⟨above, below⟩
    cases x with
    | nan => cases below
    | negInf => cases above
    | posInf => cases below
    | fin q => exact ⟨q, rfl, Number.fin_le.mp above, Number.fin_le.mp below⟩

theorem Between.inRange (x : Between lo hi) : InRange lo hi x.1 := inRange_iff.mpr x.2

theorem checkBetween_ok {x : Number} (inRange : InRange lo hi x) :
    ∃ out, checkBetween lo hi x = .ok out :=
  ⟨_, checkBetween_val ⟨x, inRange_iff.mp inRange⟩⟩

/-- A finite number that the bounds let through. -/
def Between.ofRat (q : ℚ) (bounds : lo ≤ q ∧ q ≤ hi) : Between lo hi :=
  ⟨.fin q, Number.fin_le.mpr bounds.1, Number.fin_le.mpr bounds.2⟩

end

end Pydantic

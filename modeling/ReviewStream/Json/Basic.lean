import ReviewStream.Binary64.Basic

/-!
# JSON values

The values that event lines, configurations and query rows are made of.  The members of an object
are a list: in the order of the keys for a value that was read, in the order of declaration for a
record that is about to be written.

* `Json`: the values, with a number that is either an integer or a double.
* `Json.insert`: adds a member in the order of the keys, the later of two equal keys winning.
* `Json.get?`, `Json.text?`: looking into a value.
-/

namespace ReviewStream

/-- A JSON number: an integer written without fraction and exponent, or a double. -/
inductive Json.Number where
  | integer (i : Int)
  | real (x : Binary64)
deriving DecidableEq

/-- A JSON value. -/
inductive Json where
  | null
  | bool (b : Bool)
  | number (n : Json.Number)
  | text (s : String)
  | list (items : List Json)
  | object (members : List (String × Json))

namespace Json

/-! ## Equality -/

mutual

/-- Whether two values are equal. -/
def decEq : (a b : Json) → Decidable (a = b)
  | .null, b => match b with
    | .null => isTrue rfl
    | .bool _ | .number _ | .text _ | .list _ | .object _ => isFalse (by simp)
  | .bool x, b => match b with
    | .bool y => decidable_of_iff (x = y) (by simp)
    | .null | .number _ | .text _ | .list _ | .object _ => isFalse (by simp)
  | .number x, b => match b with
    | .number y => decidable_of_iff (x = y) (by simp)
    | .null | .bool _ | .text _ | .list _ | .object _ => isFalse (by simp)
  | .text x, b => match b with
    | .text y => decidable_of_iff (x = y) (by simp)
    | .null | .bool _ | .number _ | .list _ | .object _ => isFalse (by simp)
  | .list xs, b => match b with
    | .list ys => @decidable_of_iff _ (xs = ys) (by simp) (decEqItems xs ys)
    | .null | .bool _ | .number _ | .text _ | .object _ => isFalse (by simp)
  | .object xs, b => match b with
    | .object ys => @decidable_of_iff _ (xs = ys) (by simp) (decEqMembers xs ys)
    | .null | .bool _ | .number _ | .text _ | .list _ => isFalse (by simp)

/-- Whether two lists of items are equal. -/
def decEqItems : (xs ys : List Json) → Decidable (xs = ys)
  | [], [] => isTrue rfl
  | [], _ :: _ | _ :: _, [] => isFalse (by simp)
  | x :: xs, y :: ys =>
    @decidable_of_iff _ (x = y ∧ xs = ys) (by simp)
      (@instDecidableAnd _ _ (decEq x y) (decEqItems xs ys))

/-- Whether two lists of members are equal. -/
def decEqMembers : (xs ys : List (String × Json)) → Decidable (xs = ys)
  | [], [] => isTrue rfl
  | [], _ :: _ | _ :: _, [] => isFalse (by simp)
  | (k, x) :: xs, (l, y) :: ys =>
    @decidable_of_iff _ (k = l ∧ x = y ∧ xs = ys) (by simp [and_assoc])
      (@instDecidableAnd _ _ inferInstance
        (@instDecidableAnd _ _ (decEq x y) (decEqMembers xs ys)))

end

instance : DecidableEq Json := decEq

/-! ## Building values -/

/-- The value of a natural number. -/
def nat (n : Nat) : Json := .number (.integer n)

/-- The value of an integer. -/
def int (i : Int) : Json := .number (.integer i)

/-- A value that may be absent, written as null. -/
def ofOption (f : α → Json) : Option α → Json
  | none => .null
  | some a => f a

/-- A text that may be absent, written as null. -/
def optText : Option String → Json := ofOption .text

/-- The list of some texts. -/
def texts (ss : List String) : Json := .list (ss.map .text)

/-! ## Order of keys -/

/-- The order of keys by their octets, which for well-formed text is the order by code points. -/
def keyLess (a b : String) : Bool := decide (a < b)

/-- Puts a member into a list sorted by keys, in the place of an earlier one with its key. -/
def insert (key : String) (value : Json) : List (String × Json) → List (String × Json)
  | [] => [(key, value)]
  | (k, v) :: rest =>
    if key = k then (key, value) :: rest
    else if keyLess key k then (key, value) :: (k, v) :: rest
    else (k, v) :: insert key value rest

/-- The members sorted by their keys, the last of equal keys being kept. -/
def sortMembers (members : List (String × Json)) : List (String × Json) :=
  members.foldl (fun sorted (k, v) => insert k v sorted) []

/-! ## Looking into a value -/

/-- The value under a key of a member list. -/
def find? (key : String) : List (String × Json) → Option Json
  | [] => none
  | (k, v) :: rest => if k = key then some v else find? key rest

/-- The value under a key, if the value is an object that has it. -/
def get? (key : String) : Json → Option Json
  | .object members => find? key members
  | _ => none

/-- The text that the value is. -/
def text? : Json → Option String
  | .text s => some s
  | _ => none

/-- The text under a key. -/
def textAt? (key : String) (v : Json) : Option String :=
  (v.get? key).bind text?

/-- The integer that the value is. -/
def int? : Json → Option Int
  | .number (.integer i) => some i
  | _ => none

/-- Whether the value is an object. -/
def isObject : Json → Bool
  | .object _ => true
  | _ => false

end Json

end ReviewStream

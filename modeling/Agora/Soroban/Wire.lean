/-
This file models the values that contracts send to each other, and how the types of a
contract are written to them and read back.

A type is sent through a codec, which carries the proof that what it writes it reads back.
A struct is a map from the names of its fields, and is read only from a map with exactly
these names. So two structs of the same name in two contracts understand each other where
their lists of names are permutations of each other, and nowhere else.
-/

import Mathlib.Data.List.Perm.Basic
import Agora.Lib.Table
import Agora.Soroban.Host

namespace Agora.Soroban

/-- The key of a map: the name of a field, or a text. -/
inductive ScKey where
  | symbol (name : String)
  | string (text : String)
  deriving DecidableEq, Repr

/-- A value as it is sent. -/
inductive ScVal where
  | void
  | bool (value : Bool)
  | u32 (value : Nat)
  | u64 (value : Nat)
  | i128 (value : Int)
  | string (text : String)
  | symbol (name : String)
  | address (value : Address)
  | vec (items : List ScVal)
  | map (entries : List (ScKey × ScVal))

/-! ### Codecs -/

/-- How the values of a type are written, and read back. -/
structure Codec (Value : Type) where
  encode : Value → ScVal
  decode : ScVal → Option Value
  decode_encode : ∀ value, decode (encode value) = some value

namespace Codec

variable {Value : Type}

def bool : Codec Bool where
  encode := .bool
  decode
    | .bool value => some value
    | _ => none
  decode_encode _ := rfl

def u32 : Codec Nat where
  encode := .u32
  decode
    | .u32 value => some value
    | _ => none
  decode_encode _ := rfl

def u64 : Codec Nat where
  encode := .u64
  decode
    | .u64 value => some value
    | _ => none
  decode_encode _ := rfl

def i128 : Codec Int where
  encode := .i128
  decode
    | .i128 value => some value
    | _ => none
  decode_encode _ := rfl

def string : Codec String where
  encode := .string
  decode
    | .string text => some text
    | _ => none
  decode_encode _ := rfl

def address : Codec Address where
  encode := .address
  decode
    | .address value => some value
    | _ => none
  decode_encode _ := rfl

/-- An absent value is void. The codec of a present one never writes void. -/
def option (codec : Codec Value) (solid : ∀ value, codec.encode value ≠ .void) :
    Codec (Option Value) where
  encode value := value.elim .void codec.encode
  decode
    | .void => some none
    | sent => (codec.decode sent).map some
  decode_encode value := by
    cases value with
    | none => rfl
    | some value =>
      show (match codec.encode value with
        | .void => some none
        | sent => (codec.decode sent).map some) = _
      split
      next void => exact absurd void (solid value)
      next => rw [codec.decode_encode, Option.map_some]

theorem encode_option_some (codec : Codec Value) (solid : ∀ value, codec.encode value ≠ .void)
    (value : Value) : (codec.option solid).encode (some value) = codec.encode value := rfl

theorem decode_option {codec : Codec Value} {solid : ∀ value, codec.encode value ≠ .void}
    {sent : ScVal} (present : sent ≠ .void) :
    (codec.option solid).decode sent = (codec.decode sent).map some := by
  show (match sent with
    | .void => some none
    | sent => (codec.decode sent).map some) = _
  split
  next => exact absurd rfl present
  next => rfl

variable {Sent : Type}

/-- Reading item by item succeeds when every item is read. -/
theorem mapM_of_forall₂ {read : Sent → Option Value} {sent : List Sent} {values : List Value}
    (each : List.Forall₂ (fun item value => read item = some value) sent values) :
    sent.mapM read = some values := by
  induction each with
  | nil => rfl
  | cons first _ inductionHypothesis =>
    rw [List.mapM_cons, first, inductionHypothesis]
    rfl

theorem mapM_map_encode {encode : Value → Sent} {decode : Sent → Option Value}
    (law : ∀ value, decode (encode value) = some value) (items : List Value) :
    (items.map encode).mapM decode = some items := by
  refine mapM_of_forall₂ (List.forall₂_map_left_iff.mpr ?_)
  exact List.forall₂_same.mpr fun value _ => law value

def vec (codec : Codec Value) : Codec (List Value) where
  encode items := .vec (items.map codec.encode)
  decode
    | .vec items => items.mapM codec.decode
    | _ => none
  decode_encode := mapM_map_encode codec.decode_encode

/-- A variant without data is the list of its name. -/
def variant (name : Value → String) (values : List Value)
    (named : ∀ value, values.find? (name · = name value) = some value) : Codec Value where
  encode value := .vec [.symbol (name value)]
  decode
    | .vec [.symbol text] => values.find? (name · = text)
    | _ => none
  decode_encode := named

def dictionary (codec : Codec Value) : Codec (Table String Value) where
  encode table := .map (table.entries.map fun entry => (.string entry.1, codec.encode entry.2))
  decode
    | .map entries => do
      let pairs ← entries.mapM fun
        | (.string text, sent) => (codec.decode sent).map (text, ·)
        | _ => none
      pure (pairs.foldl (fun table pair => table.set pair.1 pair.2) .empty)
    | _ => none
  decode_encode table := by
    have pairs : (table.entries.map fun entry =>
        (ScKey.string entry.1, codec.encode entry.2)).mapM (fun
          | (.string text, sent) => (codec.decode sent).map (text, ·)
          | _ => none) = some table.entries := by
      refine mapM_map_encode (fun entry => ?_) table.entries
      show (codec.decode (codec.encode entry.2)).map (entry.1, ·) = some entry
      rw [codec.decode_encode, Option.map_some]
    have same : table.entries.foldl (fun table pair => table.set pair.1 pair.2) .empty = table := by
      refine Table.ext fun key => ?_
      rw [Table.get_foldl_entries (fun _ content => some content) fun table entry key => ?_]
      · cases table.get key with
        | none => exact Table.get_empty key
        | some content => rfl
      · rw [Table.get_set]
    show Option.bind _ _ = _
    rw [pairs, Option.bind_some, same]
    rfl

end Codec

/-! ### Structs -/

/-- The fields of a struct: their names, and how their values are written and read back. -/
structure Fields (Value : Type) where
  names : List String
  encode : Value → List ScVal
  decode : List ScVal → Option Value
  length_encode : ∀ value, (encode value).length = names.length
  decode_encode : ∀ value, decode (encode value) = some value

namespace Fields

variable {Value Rest : Type}

def nil : Fields Unit where
  names := []
  encode _ := []
  decode
    | [] => some ()
    | _ => none
  length_encode _ := rfl
  decode_encode _ := rfl

def cons (name : String) (codec : Codec Value) (rest : Fields Rest) : Fields (Value × Rest) where
  names := name :: rest.names
  encode value := codec.encode value.1 :: rest.encode value.2
  decode
    | [] => none
    | sent :: others => do
      let first ← codec.decode sent
      let second ← rest.decode others
      pure (first, second)
  length_encode value := by
    rw [List.length_cons, List.length_cons, rest.length_encode]
  decode_encode value := by
    show Option.bind _ _ = _
    rw [codec.decode_encode, Option.bind_some, rest.decode_encode]
    rfl

/-- The fields of a struct that is a tuple of its fields. -/
def via (fields : Fields Rest) (tuple : Value → Rest) (back : Rest → Value)
    (law : ∀ value, back (tuple value) = value) : Fields Value where
  names := fields.names
  encode value := fields.encode (tuple value)
  decode sent := (fields.decode sent).map back
  length_encode value := fields.length_encode (tuple value)
  decode_encode value := by
    rw [fields.decode_encode, Option.map_some, law]

/-- The values of the fields that a map has under exactly these names. -/
def select (names : List String) (entries : List (ScKey × ScVal)) : Option (List ScVal) :=
  if (entries.map Prod.fst).Perm (names.map .symbol) then
    names.mapM fun name => entries.lookup (.symbol name)
  else none

theorem lookup_of_mem {entries : List (ScKey × ScVal)} (distinct : (entries.map Prod.fst).Nodup)
    {key : ScKey} {value : ScVal} (member : (key, value) ∈ entries) :
    entries.lookup key = some value := by
  induction entries with
  | nil => cases member
  | cons entry rest inductionHypothesis =>
    obtain ⟨fresh, others⟩ := List.nodup_cons.mp distinct
    rcases List.mem_cons.mp member with rfl | later
    · exact List.lookup_cons_self
    · obtain ⟨entryKey, entryValue⟩ := entry
      have different : (key == entryKey) = false := by
        refine beq_eq_false_iff_ne.mpr ?_
        rintro rfl
        exact fresh (List.mem_map.mpr ⟨_, later, rfl⟩)
      rw [List.lookup_cons, different]
      exact inductionHypothesis others later

def sent (fields : Fields Value) (value : Value) : List (ScKey × ScVal) :=
  (fields.names.map .symbol).zip (fields.encode value)

theorem keys_sent (fields : Fields Value) (value : Value) :
    (fields.sent value).map Prod.fst = fields.names.map .symbol := by
  refine List.map_fst_zip ?_
  rw [List.length_map, fields.length_encode]

/-- What was sent is selected under its own names. -/
theorem select_sent (fields : Fields Value) (distinct : fields.names.Nodup) (value : Value) :
    select fields.names (fields.sent value) = some (fields.encode value) := by
  have keys : ((fields.sent value).map Prod.fst).Nodup := by
    rw [keys_sent]
    refine distinct.map fun first second same => ?_
    cases same
    rfl
  rw [select, keys_sent, if_pos (List.Perm.refl _)]
  refine Codec.mapM_of_forall₂ (List.forall₂_iff_zip.mpr ⟨(fields.length_encode value).symm, ?_⟩)
  intro name sentValue member
  refine lookup_of_mem keys ?_
  rw [sent, List.zip_map_left]
  exact List.mem_map.mpr ⟨_, member, rfl⟩

end Fields

namespace Codec

variable {Value Other : Type}

/-- A struct is a map from the names of its fields, and is read from a map with exactly them. -/
def struct (fields : Fields Value) (distinct : fields.names.Nodup) : Codec Value where
  encode value := .map (fields.sent value)
  decode
    | .map entries => (Fields.select fields.names entries).bind fields.decode
    | _ => none
  decode_encode value := by
    show (Fields.select fields.names (fields.sent value)).bind fields.decode = some value
    rw [fields.select_sent distinct, Option.bind_some, fields.decode_encode]

variable {fields : Fields Value} {value : Value}

/-- A struct is not read as one with other field names. -/
theorem decode_struct_of_not_perm {others : Fields Other} (distinct : fields.names.Nodup)
    (othersDistinct : others.names.Nodup) (different : ¬fields.names.Perm others.names) :
    (struct others othersDistinct).decode ((struct fields distinct).encode value) = none := by
  have refused : Fields.select others.names (fields.sent value) = none := by
    rw [Fields.select, fields.keys_sent, if_neg]
    intro permutation
    refine different ((List.map_perm_map_iff fun first second same => ?_).mp permutation)
    cases same
    rfl
  show (Fields.select others.names (fields.sent value)).bind others.decode = none
  rw [refused, Option.bind_none]

theorem struct_solid (distinct : fields.names.Nodup) :
    (struct fields distinct).encode value ≠ .void := by
  rintro ⟨⟩

end Codec

/-! ### Calls -/

/-- The type of a parameter. -/
inductive ParameterType where
  | u32
  | u64
  | i128
  | string
  | address
  deriving DecidableEq, Repr

end Agora.Soroban

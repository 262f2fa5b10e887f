import Goshop.Lib.Decimal
import Goshop.Lib.Json
import Mathlib.Data.Finset.Sort
import Mathlib.Data.List.Sigma
import Mathlib.Data.String.Basic

/-! JSON texts of documents with whole numbers, printed without spaces and with the
keys of every object in order, and a reader for them. -/
namespace Goshop.Lib.JsonText

open Goshop.Lib.Json

abbrev Reader (α : Type) := List Char → Option (α × List Char)

def isDigit (c : Char) : Bool :=
  48 ≤ c.toNat && c.toNat ≤ 57

def Stops (rest : List Char) : Prop :=
  ∀ c ∈ rest.head?, isDigit c = false

def Reads {α : Type} (reader : Reader α) (text : List Char) (value : α) : Prop :=
  ∀ rest, Stops rest → reader (text ++ rest) = some (value, rest)

section Scalars

def readNumber : Reader Nat := fun text =>
  if text.takeWhile isDigit = [] then none
  else some (Decimal.charsValue (text.takeWhile isDigit), text.dropWhile isDigit)

theorem reads_number (number : Nat) : Reads readNumber (toString number).toList number := by
  intro rest hstops
  obtain ⟨digits, hne, htext, hvalue⟩ := Decimal.exists_digits number
  have hdigits : ∀ c ∈ Decimal.chars digits, isDigit c = true := by
    intro c hc
    have := Decimal.mem_chars hc
    simp [isDigit, this]
  have htake : rest.takeWhile isDigit = [] := by
    cases rest with
    | nil => rfl
    | cons c rest => exact List.takeWhile_cons_of_neg (by simp [hstops c rfl])
  have hdrop : rest.dropWhile isDigit = rest := by
    cases rest with
    | nil => rfl
    | cons c rest => exact List.dropWhile_cons_of_neg (by simp [hstops c rfl])
  rw [htext, readNumber, List.takeWhile_append_of_pos hdigits, htake, List.append_nil,
    List.dropWhile_append_of_pos hdigits, hdrop, if_neg (by simpa using hne),
    Decimal.charsValue_chars, hvalue]

def escaped (c : Char) : List Char :=
  if c = '"' ∨ c = '\\' then ['\\', c] else [c]

def body (text : String) : List Char :=
  text.toList.flatMap escaped ++ ['"']

def readBody : Bool → Reader (List Char)
  | _, [] => none
  | true, c :: rest => (readBody false rest).map fun found => (c :: found.1, found.2)
  | false, c :: rest =>
    if c = '"' then some ([], rest)
    else if c = '\\' then readBody true rest
    else (readBody false rest).map fun found => (c :: found.1, found.2)

theorem readBody_escaped (c : Char) (rest : List Char) :
    readBody false (escaped c ++ rest) =
      (readBody false rest).map fun found => (c :: found.1, found.2) := by
  unfold escaped
  split
  · simp [readBody]
  · rename_i hplain
    rw [not_or] at hplain
    simp [readBody, hplain]

theorem readBody_body (chars rest : List Char) :
    readBody false (chars.flatMap escaped ++ '"' :: rest) = some (chars, rest) := by
  induction chars with
  | nil => simp [readBody]
  | cons c chars ih =>
    rw [List.flatMap_cons, List.append_assoc, readBody_escaped, ih, Option.map_some]

end Scalars

section Sequences

variable {α : Type}

def listed (close : Char) : List (List Char) → List Char
  | [] => [close]
  | [part] => part ++ [close]
  | part :: rest => part ++ ',' :: listed close rest

def readMore (close : Char) (readOne : Reader α) : Nat → Reader (List α)
  | 0, _ => none
  | fuel + 1, text => do
    let (first, rest) ← readOne text
    match rest with
    | [] => none
    | c :: rest =>
      if c = close then some ([first], rest)
      else if c = ',' then do
        let (others, rest) ← readMore close readOne fuel rest
        some (first :: others, rest)
      else none

def readListed (close : Char) (readOne : Reader α) : Reader (List α)
  | [] => none
  | c :: rest =>
    if c = close then some ([], rest)
    else readMore close readOne (rest.length + 1) (c :: rest)

theorem length_listed (close : Char) (parts : List (List Char)) :
    parts.length ≤ (listed close parts).length := by
  fun_induction listed close parts with
  | case1 => simp
  | case2 => simp
  | case3 part rest _ ih => simp; omega

theorem length_lt_listed (close : Char) {parts : List (List Char)} {part : List Char}
    (h : part ∈ parts) : part.length < (listed close parts).length := by
  fun_induction listed close parts with
  | case1 => simp at h
  | case2 => simp_all
  | case3 first rest _ ih =>
    rcases List.mem_cons.mp h with rfl | hrest
    · simp
    · have := ih hrest
      simp
      omega

variable {close : Char} {readOne : Reader α} {write : α → List Char} {values : List α}

theorem reads_more (hclose : close ≠ ',') (hstops : isDigit close = false) (hne : values ≠ [])
    (each : ∀ value ∈ values, Reads readOne (write value) value) {fuel : Nat}
    (enough : values.length ≤ fuel) (rest : List Char) :
    readMore close readOne fuel (listed close (values.map write) ++ rest) =
      some (values, rest) := by
  induction values generalizing fuel with
  | nil => exact absurd rfl hne
  | cons value values ih =>
    obtain ⟨fuel, rfl⟩ := Nat.exists_eq_add_one_of_ne_zero (Nat.ne_zero_of_lt enough)
    have hfirst := each value List.mem_cons_self
    cases values with
    | nil =>
      have hone := hfirst (close :: rest) (by simpa [Stops] using hstops)
      simp [listed, readMore, hone]
    | cons second values =>
      have hone := hfirst (',' :: (listed close ((second :: values).map write) ++ rest))
        (by simp [Stops]; decide)
      have hmore := ih (List.cons_ne_nil _ _)
        (fun value hvalue => each value (List.mem_cons_of_mem _ hvalue))
        (Nat.le_of_succ_le_succ enough)
      simp only [List.map_cons] at hone hmore
      simp [listed, readMore, hone, hmore, hclose.symm]

theorem listed_cons (hstops : isDigit close = false) (part : List Char) (parts : List (List Char))
    (rest : List Char) :
    ∃ c tail, isDigit c = false ∧ listed close (part :: parts) ++ rest = part ++ c :: tail := by
  cases parts with
  | nil => exact ⟨close, rest, hstops, by simp [listed]⟩
  | cons second parts => exact ⟨',', _, by decide, by simp [listed]; rfl⟩

/-- A list is read back if its members are and none of them looks like the end. -/
theorem reads_listed (hclose : close ≠ ',') (hstops : isDigit close = false)
    (refuses : ∀ rest, readOne (close :: rest) = none)
    (each : ∀ value ∈ values, Reads readOne (write value) value) :
    Reads (readListed close readOne) (listed close (values.map write)) values := by
  intro rest _
  cases values with
  | nil => simp [listed, readListed]
  | cons value values =>
    obtain ⟨c, tail, hc, htext⟩ := listed_cons hstops (write value) (values.map write) rest
    have hfirst : readOne (listed close ((value :: values).map write) ++ rest) =
        some (value, c :: tail) := by
      rw [List.map_cons, htext]
      exact each value List.mem_cons_self (c :: tail) (by simpa [Stops] using hc)
    have hlength := length_listed close ((value :: values).map write)
    generalize htotal : listed close ((value :: values).map write) ++ rest = text at *
    cases text with
    | nil => simp [htext] at htotal
    | cons d text =>
      -- A text that began like the end would be refused by the reader of members.
      have hd : d ≠ close := by
        rintro rfl
        rw [refuses] at hfirst
        exact absurd hfirst (by simp)
      have henough : (value :: values).length ≤ text.length + 1 := by
        have := congrArg List.length htotal
        simp only [List.length_append, List.length_map, List.length_cons] at this hlength ⊢
        omega
      rw [readListed, if_neg hd, ← htotal]
      exact reads_more hclose hstops (List.cons_ne_nil value values) each henough rest

end Sequences

section Documents

def scalarText : Scalar Nat → List Char
  | .null => ['n', 'u', 'l', 'l']
  | .bool true => ['t', 'r', 'u', 'e']
  | .bool false => ['f', 'a', 'l', 's', 'e']
  | .number value => (toString value).toList
  | .string value => '"' :: body value

def fieldText (name : String) (text : List Char) : List Char :=
  '"' :: body name ++ ':' :: text

def print : Document Nat → List Char
  | .scalar value => scalarText value
  | .array _ items => '[' :: listed ']' (List.ofFn fun i => print (items i))
  | .object keys fields =>
    '\x7b' :: listed '\x7d' ((keys.attach.sort (· ≤ ·)).map fun key : keys =>
      fieldText key (print (fields key)))

def readScalar : Reader (Scalar Nat)
  | [] => none
  | c :: rest =>
    if c = '"' then (readBody false rest).map fun found => (.string (.ofList found.1), found.2)
    else if c = 'n' then (rest.dropPrefix? ['u', 'l', 'l']).map (.null, ·)
    else if c = 't' then (rest.dropPrefix? ['r', 'u', 'e']).map (.bool true, ·)
    else if c = 'f' then (rest.dropPrefix? ['a', 'l', 's', 'e']).map (.bool false, ·)
    else (readNumber (c :: rest)).map fun found => (.number found.1, found.2)

abbrev Field := Sigma fun _ : String => Document Nat

def readField (readOne : Reader (Document Nat)) : Reader Field
  | [] => none
  | c :: rest =>
    if c = '"' then do
      let (name, rest) ← readBody false rest
      match rest with
      | [] => none
      | d :: rest =>
        if d = ':' then (readOne rest).map fun found => (⟨.ofList name, found.1⟩, found.2)
        else none
    else none

/-- Of several fields with one name the last one counts. -/
def fieldNamed (fields : List Field) (name : String) : Document Nat :=
  (fields.reverse.dlookup name).getD (.scalar .null)

def ofFields (fields : List Field) : Document Nat :=
  .object (fields.map Sigma.fst).toFinset fun key => fieldNamed fields key

def readContainer (readOne : Reader (Document Nat)) : Reader (Document Nat)
  | [] => none
  | c :: rest =>
    if c = '[' then
      (readListed ']' readOne rest).map fun found =>
        (.array found.1.length found.1.get, found.2)
    else if c = '\x7b' then
      (readListed '\x7d' (readField readOne) rest).map fun found => (ofFields found.1, found.2)
    else none

def readDocument : Nat → Reader (Document Nat)
  | 0, _ => none
  | fuel + 1, text =>
    ((readScalar text).map fun found => (.scalar found.1, found.2)).or
      (readContainer (readDocument fuel) text)

end Documents

section RoundTrip

theorem reads_scalar (value : Scalar Nat) : Reads readScalar (scalarText value) value := by
  intro rest hstops
  cases value with
  | null => simp [scalarText, readScalar, List.dropPrefix?]
  | bool value => cases value <;> simp [scalarText, readScalar, List.dropPrefix?]
  | string value => simp [scalarText, body, readScalar, readBody_body]
  | number value =>
    have hnumber := reads_number value rest hstops
    obtain ⟨digits, hne, htext, -⟩ := Decimal.exists_digits value
    cases digits with
    | nil => exact absurd rfl hne
    | cons digit digits =>
      have hdigit := digit.isLt
      have hchar := Decimal.digitChar_toNat digit
      -- A digit is none of the characters that the other scalars begin with.
      have hplain {c : Char} (h : 58 ≤ c.toNat ∨ c.toNat < 48) : Decimal.digitChar digit ≠ c := by
        rintro rfl
        omega
      rw [htext] at hnumber
      rw [scalarText, htext]
      simp only [Decimal.chars, List.map_cons, List.cons_append] at hnumber ⊢
      rw [readScalar, if_neg (hplain (by decide)), if_neg (hplain (by decide)),
        if_neg (hplain (by decide)), if_neg (hplain (by decide)), hnumber, Option.map_some]

theorem reads_field {readOne : Reader (Document Nat)} {name : String} {text : List Char}
    {document : Document Nat} (h : Reads readOne text document) :
    Reads (readField readOne) (fieldText name text) ⟨name, document⟩ := by
  intro rest hstops
  have hbody := readBody_body name.toList (':' :: (text ++ rest))
  simp [fieldText, body, readField, hbody, h rest hstops]

def members {keys : Finset String} (fields : keys → Document Nat) : List Field :=
  (keys.attach.sort (· ≤ ·)).map fun key : keys => ⟨key, fields key⟩

theorem keys_members {keys : Finset String} (fields : keys → Document Nat) :
    (members fields).map Sigma.fst = (keys.attach.sort (· ≤ ·)).map Subtype.val := by
  rw [members, List.map_map]
  rfl

theorem mem_members {keys : Finset String} {fields : keys → Document Nat} (key : keys) :
    ⟨key, fields key⟩ ∈ members fields :=
  List.mem_map_of_mem ((Finset.mem_sort _).mpr (Finset.mem_attach _ key))

theorem ofFields_members {keys : Finset String} (fields : keys → Document Nat) :
    ofFields (members fields) = .object keys fields := by
  have hnodup : (members fields).reverse.NodupKeys := by
    rw [List.perm_nodupKeys (List.reverse_perm _), List.NodupKeys, List.keys, keys_members]
    exact (Finset.sort_nodup _ _).map Subtype.val_injective
  refine Document.object_congr (fieldNamed (members fields)) ?_ fun key => ?_
  · ext name
    simp [keys_members]
  · rw [fieldNamed, List.mem_dlookup hnodup (List.mem_reverse.mpr (mem_members key)),
      Option.getD_some]

theorem print_array {length : Nat} (items : Fin length → Document Nat) :
    print (.array length items) = '[' :: listed ']' ((List.ofFn items).map print) := by
  rw [print, List.map_ofFn]
  rfl

theorem print_object {keys : Finset String} (fields : keys → Document Nat) :
    print (.object keys fields) =
      '\x7b' :: listed '\x7d' ((members fields).map fun field =>
        fieldText field.1 (print field.2)) := by
  rw [print, members, List.map_map]
  rfl

theorem ofItems_ofFn {length : Nat} (items : Fin length → Document Nat) :
    Document.array (List.ofFn items).length (List.ofFn items).get = .array length items := by
  have hlength : (List.ofFn items).length = length := List.length_ofFn
  rw [← Document.array_cast hlength items]
  congr 1
  funext i
  exact List.get_ofFn items i

theorem readDocument_bracket {c : Char} (h : c ∈ ['[', ']', '\x7b']) (fuel : Nat)
    (rest : List Char) :
    readDocument (fuel + 1) (c :: rest) = readContainer (readDocument fuel) (c :: rest) := by
  have hscalar : readScalar (c :: rest) = none := by
    simp only [List.mem_cons, List.not_mem_nil, or_false] at h
    rcases h with rfl | rfl | rfl <;> simp [readScalar, readNumber, isDigit]
  rw [readDocument, hscalar, Option.map_none, Option.none_or]

theorem readDocument_close (fuel : Nat) (rest : List Char) :
    readDocument fuel (']' :: rest) = none := by
  cases fuel with
  | zero => rfl
  | succ fuel =>
    rw [readDocument_bracket (by simp)]
    simp [readContainer]

theorem reads_document (document : Document Nat) {fuel : Nat} (enough : document.depth < fuel) :
    Reads (readDocument fuel) (print document) document := by
  induction document generalizing fuel with
  | scalar value =>
    obtain ⟨fuel, rfl⟩ := Nat.exists_eq_add_one_of_ne_zero (Nat.ne_zero_of_lt enough)
    intro rest hstops
    rw [print, readDocument, reads_scalar value rest hstops, Option.map_some, Option.some_or]
  | array length items ih =>
    obtain ⟨fuel, rfl⟩ := Nat.exists_eq_add_one_of_ne_zero (Nat.ne_zero_of_lt enough)
    intro rest hstops
    have heach : ∀ item ∈ List.ofFn items, Reads (readDocument fuel) (print item) item := by
      intro item hitem
      obtain ⟨i, rfl⟩ := List.mem_ofFn.mp hitem
      exact ih i (Nat.lt_of_lt_of_le (Document.depth_item_lt items i) (Nat.le_of_lt_succ enough))
    have hitems := reads_listed (by decide) (by decide) (readDocument_close fuel) heach rest hstops
    rw [print_array, List.cons_append, readDocument_bracket (by simp), readContainer, if_pos rfl,
      hitems, Option.map_some, ofItems_ofFn]
  | object keys fields ih =>
    obtain ⟨fuel, rfl⟩ := Nat.exists_eq_add_one_of_ne_zero (Nat.ne_zero_of_lt enough)
    intro rest hstops
    have heach : ∀ field ∈ members fields, Reads (readField (readDocument fuel))
        (fieldText field.1 (print field.2)) field := by
      intro field hfield
      obtain ⟨key, -, rfl⟩ := List.mem_map.mp hfield
      exact reads_field (ih key (Nat.lt_of_lt_of_le (Document.depth_field_lt fields key)
        (Nat.le_of_lt_succ enough)))
    have hclose (rest : List Char) : readField (readDocument fuel) ('\x7d' :: rest) = none := by
      simp [readField]
    have hfields := reads_listed (by decide) (by decide) hclose heach rest hstops
    rw [print_object, List.cons_append, readDocument_bracket (by simp), readContainer,
      if_neg (by decide), if_pos rfl, hfields, Option.map_some, ofFields_members]

theorem depth_le_length (document : Document Nat) : document.depth ≤ (print document).length := by
  induction document with
  | scalar value => exact Nat.zero_le _
  | array length items ih =>
    rw [print, List.length_cons, Document.depth, Nat.add_le_add_iff_right]
    refine Finset.sup_le fun i _ => (ih i).trans (Nat.le_of_lt (length_lt_listed _ ?_))
    exact List.mem_ofFn.mpr ⟨i, rfl⟩
  | object keys fields ih =>
    rw [print_object, List.length_cons, Document.depth, Nat.add_le_add_iff_right]
    refine Finset.sup_le fun key _ => ?_
    have hmem : (⟨key, fields key⟩ : Field) ∈ members fields := mem_members key
    have hlength := length_lt_listed '\x7d'
      (List.mem_map_of_mem (f := fun field : Field => fieldText field.1 (print field.2)) hmem)
    have hfield : (print (fields key)).length ≤ (fieldText key (print (fields key))).length := by
      simp only [fieldText, List.length_append, List.length_cons]
      omega
    exact ((ih key).trans hfield).trans (Nat.le_of_lt hlength)

def codec : Codec String Nat where
  unmarshal text :=
    match readDocument (text.toList.length + 1) text.toList with
    | some (document, []) => some document
    | _ => none
  marshal document := some (String.ofList (print document))
  inverts document := by
    have hread := reads_document document (Nat.lt_succ_of_le (depth_le_length document)) []
      (by simp [Stops])
    rw [List.append_nil] at hread
    refine ⟨_, rfl, ?_⟩
    rw [String.toList_ofList, hread]

end RoundTrip

end Goshop.Lib.JsonText

import Goshop.Lib.GoText
import Goshop.Lib.JsonHeap
import Goshop.Lib.JsonText

/-! Redaction of a configuration before it is logged. The values under sensitive
keys are overwritten in the maps that the decoder made. -/
namespace Goshop.App.Redaction

open Goshop.Lib Goshop.Lib.Json Goshop.Lib.JsonHeap
open Goshop.Lib.GoText (CaseTable)

section Model

def redactedValue : String := "***REDACTED***"

def sensitiveKeyParts : List String :=
  ["access-key", "apikey", "api-key", "api_secret", "apisecret", "api-secret", "authorization",
    "credential", "passwd", "password", "private-key", "profiling-token", "secret", "token"]

/-- The order in which the runtime iterates over each of the maps. -/
structure MapOrder where
  order : Address → Finset String → List String
  nodup (address : Address) (keys : Finset String) : (order address keys).Nodup
  mem_iff (address : Address) (keys : Finset String) (key : String) :
    key ∈ order address keys ↔ key ∈ keys

instance : Inhabited MapOrder where
  default :=
    { order _ keys := keys.sort (· ≤ ·)
      nodup _ _ := Finset.sort_nodup _ _
      mem_iff _ _ _ := Finset.mem_sort _ }

variable {τ ν : Type} (table : CaseTable) (codec : Codec τ ν) (mapOrder : MapOrder)

def isSensitiveKey (key : String) : Bool :=
  let normalized := (table.lowerTrim key).toList.map fun c => if c = '_' then '-' else c
  normalized == "key".toList || ".key".toList.isSuffixOf normalized ||
    "-key".toList.isSuffixOf normalized ||
    sensitiveKeyParts.any fun part => part.toList <:+: normalized

def redactEntry (redactChild : Heap ν → Value ν → String → Option (Heap ν)) (address : Address)
    (heap : Heap ν) (childKey : String) : Option (Heap ν) :=
  match heap.lookup address childKey with
  | none => some heap
  | some childValue =>
    if isSensitiveKey table childKey then
      some (heap.assign address childKey (.scalar (.string redactedValue)))
    else redactChild heap childValue childKey

def redactValue : Nat → Heap ν → Value ν → String → Option (Heap ν)
  | 0, _, _, _ => none
  | fuel + 1, heap, .map address, _ =>
    (mapOrder.order address (heap address).entries.keys).foldlM
      (redactEntry table (redactValue fuel) address) heap
  | fuel + 1, heap, .slice address, key =>
    (heap address).items.foldlM (fun heap childValue => redactValue fuel heap childValue key) heap
  | _ + 1, heap, .scalar _, _ => some heap

/-- The result is missing only if the fuel runs out. -/
def redactJSON (fuel : Nat) (raw : τ) : Option τ :=
  match codec.unmarshal raw with
  | none => some raw
  | some document => do
    let value := valueAt [] document
    let heap ← redactValue table mapOrder fuel (load document) value ""
    let redacted ← read heap fuel value
    some ((codec.marshal redacted).getD raw)

end Model

section Refinement

variable {τ ν : Type} {table : CaseTable} {mapOrder : MapOrder}

def redact (table : CaseTable) : Document ν → Document ν :=
  Document.mask (isSensitiveKey table) (.scalar (.string redactedValue))

def redactFields (table : CaseTable) {keys : Finset String} (fields : keys → Document ν)
    (key : keys) : Document ν :=
  if isSensitiveKey table key then .scalar (.string redactedValue) else redact table (fields key)

/-- The call redacts what the value at this place stands for, and changes nothing
elsewhere. -/
def Redacts (table : CaseTable) (call : Heap ν → Value ν → Option (Heap ν))
    (place : Address) (document : Document ν) : Prop :=
  ∀ heap value, Holds heap place value document → ∃ next, call heap value = some next ∧
    Holds next place value (redact table document) ∧ Elsewhere place heap next

variable {heap : Heap ν} {place : Address} {fuel : Nat}

section Maps

variable {redactChild : Heap ν → Value ν → String → Option (Heap ν)} {keys : Finset String}
  {fields : keys → Document ν}

theorem redactEntry_settles {name : String} {document : Document ν}
    (entry : HoldsEntry heap place name document)
    (child : Redacts table (redactChild · · name) (.key name :: place) document) :
    ∃ next, redactEntry table redactChild place heap name = some next ∧
      (next place).entries.keys = (heap place).entries.keys ∧
      HoldsEntry next place name (if isSensitiveKey table name then
        .scalar (.string redactedValue) else redact table document) ∧
      (∀ other ≠ name, next.lookup place other = heap.lookup place other) ∧
      ∀ address ≠ place, ¬.key name :: place <:+ address → next address = heap address := by
  obtain ⟨value, hlookup, hholds⟩ := entry
  rw [redactEntry, hlookup]
  by_cases hsensitive : isSensitiveKey table name
  · simp only [if_pos hsensitive]
    refine ⟨_, rfl, Heap.keys_assign (by rw [hlookup]; exact Option.some_ne_none value), ?_, ?_, ?_⟩
    · exact ⟨_, Heap.lookup_assign, rfl⟩
    · exact fun other hne => Heap.lookup_assign_of_ne hne
    · exact fun address hne _ => Heap.assign_of_ne hne
  · simp only [if_neg hsensitive]
    obtain ⟨next, hnext, hredacted, helsewhere⟩ := child heap value hholds
    have hplace := helsewhere place not_below_self
    refine ⟨next, hnext, by rw [hplace], ⟨value, ?_, hredacted⟩, ?_, ?_⟩
    · rw [Heap.lookup, hplace, ← Heap.lookup, hlookup]
    · exact fun other _ => by rw [Heap.lookup, hplace, ← Heap.lookup]
    · exact fun address _ hbelow => helsewhere address hbelow

structure MapLoop (heap : Heap ν) (place : Address) (keys : Finset String) (state : Heap ν) :
    Prop where
  keys_eq : (state place).entries.keys = keys
  elsewhere : Elsewhere place heap state

def HoldsField (place : Address) (fields : keys → Document ν) (name : String) (state : Heap ν) :
    Prop :=
  ∀ hmem : name ∈ keys, HoldsEntry state place name (fields ⟨name, hmem⟩)

theorem settles_entry (child : ∀ key : keys,
      Redacts table (redactChild · · key) (.key key :: place) (fields key)) (key : keys) :
    Settles (redactEntry table redactChild place) (MapLoop heap place keys)
      (HoldsField place fields) (HoldsField place (redactFields table fields)) key := by
  intro state hstate hbefore
  obtain ⟨next, hnext, hkeys, hentry, hothers, hframe⟩ :=
    redactEntry_settles (hbefore key.2) (child key)
  -- What this turn changes is its own entry of the map and what lies below that entry.
  have hkept {other : String} {document : Document ν} (hne : other ≠ key)
      (hheld : HoldsEntry state place other document) : HoldsEntry next place other document := by
    refine hheld.frame (hothers other hne) fun address hbelow => hframe address ?_ ?_
    · rintro rfl
      exact not_below_self hbelow
    · exact not_below_of_ne (fun heq => hne (Step.key.inj heq)) hbelow
  refine ⟨next, hnext, ⟨hkeys.trans hstate.keys_eq, fun address hbelow => ?_⟩, fun _ => hentry, ?_⟩
  · rw [hframe address, hstate.elsewhere address hbelow]
    · rintro rfl
      exact hbelow List.suffix_rfl
    · exact fun hsuffix => hbelow ((List.suffix_cons _ place).trans hsuffix)
  · exact fun other hne =>
      ⟨fun h hmem => hkept hne (h hmem), fun h hmem => hkept hne (h hmem)⟩

theorem redactEntries_holds {value : Value ν} (h : Holds heap place value (.object keys fields))
    (child : ∀ key : keys,
      Redacts table (redactChild · · key) (.key key :: place) (fields key)) :
    ∃ final, (mapOrder.order place keys).foldlM (redactEntry table redactChild place) heap =
        some final ∧
      Holds final place value (redact table (.object keys fields)) ∧
      Elsewhere place heap final := by
  obtain ⟨rfl, hkeys, hfields⟩ := h
  have hmem (name : String) := mapOrder.mem_iff place keys name
  obtain ⟨final, hrun, hfinal, hdone, -⟩ := foldlM_settles (mapOrder.nodup place keys)
    (fun name hname => settles_entry child ⟨name, (hmem name).mp hname⟩)
    (⟨hkeys, fun _ _ => rfl⟩ : MapLoop heap place keys heap)
    (fun name _ hname => hfields ⟨name, hname⟩)
  refine ⟨final, hrun, ⟨rfl, hfinal.keys_eq, fun key => ?_⟩, hfinal.elsewhere⟩
  exact hdone key ((hmem key).mpr key.2) key.2

end Maps

section Slices

variable {redactChild : Heap ν → Value ν → Option (Heap ν)} {length : Nat}
  {items : Fin length → Document ν} {children : Fin length → Value ν}

structure SliceLoop (heap : Heap ν) (place : Address) (state : Heap ν) : Prop where
  cell_eq : state place = heap place
  elsewhere : Elsewhere place heap state

def HoldsItem (place : Address) (children : Fin length → Value ν)
    (items : Fin length → Document ν) (i : Fin length) (state : Heap ν) : Prop :=
  Holds state (.index i :: place) (children i) (items i)

theorem settles_item (child : ∀ i, Redacts table redactChild (.index i.val :: place) (items i))
    (i : Fin length) :
    Settles (fun state i => redactChild state (children i)) (SliceLoop heap place)
      (HoldsItem place children items)
      (HoldsItem place children fun i => redact table (items i)) i := by
  intro state hstate hbefore
  obtain ⟨next, hnext, hafter, hframe⟩ := child i state (children i) hbefore
  have hkept {j : Fin length} {document : Document ν} (hne : j ≠ i)
      (hheld : Holds state (.index j :: place) (children j) document) :
      Holds next (.index j :: place) (children j) document := by
    refine hheld.frame fun address hbelow => hframe address (not_below_of_ne ?_ hbelow)
    exact fun heq => hne (Fin.ext (Step.index.inj heq))
  refine ⟨next, hnext, ⟨?_, hstate.elsewhere.of_child hframe⟩, hafter, ?_⟩
  · rw [hframe place not_below_self, hstate.cell_eq]
  · exact fun j hne => ⟨hkept hne, hkept hne⟩

theorem redactItems_holds {value : Value ν} (h : Holds heap place value (.array length items))
    (child : ∀ i, Redacts table redactChild (.index i.val :: place) (items i)) :
    ∃ final, (heap place).items.foldlM redactChild heap = some final ∧
      Holds final place value (redact table (.array length items)) ∧
      Elsewhere place heap final := by
  obtain ⟨rfl, children, hitems, hchildren⟩ := h
  obtain ⟨final, hrun, hfinal, hdone, -⟩ := foldlM_settles (List.nodup_finRange length)
    (fun i _ => settles_item child i) (⟨rfl, fun _ _ => rfl⟩ : SliceLoop heap place heap)
    (fun i _ => hchildren i)
  refine ⟨final, ?_, ⟨rfl, children, by rw [hfinal.cell_eq, hitems], fun i => ?_⟩,
    hfinal.elsewhere⟩
  · rw [hitems, List.ofFn_eq_map, List.foldlM_map]
    exact hrun
  · exact hdone i (List.mem_finRange i)

end Slices

/-- Redaction in place, whatever the order of the maps. -/
theorem redactValue_redacts (table : CaseTable) (mapOrder : MapOrder)
    {document : Document ν} (enough : document.depth < fuel) (key : String) :
    Redacts table (redactValue table mapOrder fuel · · key) place document := by
  intro heap value h
  induction document generalizing heap place fuel value key with
  | scalar scalar =>
    obtain ⟨fuel, rfl⟩ := Nat.exists_eq_add_one_of_ne_zero (Nat.ne_zero_of_lt enough)
    obtain rfl : value = .scalar scalar := h
    exact ⟨heap, rfl, rfl, fun _ _ => rfl⟩
  | array length items ih =>
    obtain ⟨fuel, rfl⟩ := Nat.exists_eq_add_one_of_ne_zero (Nat.ne_zero_of_lt enough)
    obtain rfl : value = .slice place := h.1
    refine redactItems_holds h fun i state child hchild => ih i ?_ key state child hchild
    have := Document.depth_item_lt items i
    omega
  | object keys fields ih =>
    obtain ⟨fuel, rfl⟩ := Nat.exists_eq_add_one_of_ne_zero (Nat.ne_zero_of_lt enough)
    obtain rfl : value = .map place := h.1
    beta_reduce
    rw [redactValue, h.2.1]
    refine redactEntries_holds h fun name state child hchild => ih name ?_ name state child hchild
    have := Document.depth_field_lt fields name
    omega

theorem redactJSON_eq {codec : Codec τ ν} {raw : τ} {document : Document ν}
    (h : codec.unmarshal raw = some document) (enough : document.depth < fuel)
    (enough' : (redact table document).depth < fuel) :
    redactJSON table codec mapOrder fuel raw =
      some ((codec.marshal (redact table document)).getD raw) := by
  obtain ⟨heap, hrun, hholds, -⟩ :=
    redactValue_redacts table mapOrder enough "" _ _ (holds_load document)
  rw [redactJSON, h]
  simp only [hrun, hholds.read_eq enough', Option.bind_eq_bind, Option.bind_some]

end Refinement

section NonInterference

variable {τ ν : Type} (table : CaseTable) (codec : Codec τ ν)

def Returns (raw text : τ) : Prop :=
  ∃ enough, ∀ mapOrder fuel, enough ≤ fuel → redactJSON table codec mapOrder fuel raw = some text

variable {table codec}

theorem returns_redacted {raw text : τ} {document : Document ν}
    (h : codec.unmarshal raw = some document)
    (printed : codec.marshal (redact table document) = some text) :
    Returns table codec raw text := by
  refine ⟨max document.depth (redact table document).depth + 1, fun mapOrder fuel enough => ?_⟩
  rw [redactJSON_eq h (by omega) (by omega), printed, Option.getD_some]

end NonInterference

/-- Documents that differ only under sensitive keys are redacted to one text, and
that text is redacted to itself. -/
theorem redaction_noninterference {τ ν : Type} (table : CaseTable) (codec : Codec τ ν)
    (x y : τ) (d e constant : Document ν) (hx : codec.unmarshal x = some d)
    (hy : codec.unmarshal y = some e)
    (same : Document.mask (isSensitiveKey table) constant d =
      Document.mask (isSensitiveKey table) constant e) :
    ∃ text, Returns table codec x text ∧ Returns table codec y text ∧
      Returns table codec text text := by
  obtain ⟨text, hprinted, hread⟩ := codec.inverts (redact table d)
  have hequal : redact table e = redact table d := (Document.mask_congr same _).symm
  have hagain : redact table (redact table d) = redact table d := Document.mask_mask _ _ d
  refine ⟨text, returns_redacted hx hprinted, returns_redacted hy ?_, returns_redacted hread ?_⟩
  · rw [hequal, hprinted]
  · rw [hagain, hprinted]

/-- A sensitive key in an array, with a text in one document and an object in the
other. -/
theorem redaction_noninterference_nested :
    ∃ text,
      Returns GoText.asciiTable JsonText.codec "[7,\x7b\"API_Key\":\"a\"\x7d]" text ∧
      Returns GoText.asciiTable JsonText.codec "[7,\x7b\"API_Key\":\x7b\"b\":null\x7d\x7d]" text ∧
      Returns GoText.asciiTable JsonText.codec text text := by
  let keyed (value : Document Nat) : Document Nat := JsonText.ofFields [⟨"API_Key", value⟩]
  let listed (value : Document Nat) : Document Nat :=
    .array 2 [.scalar (.number 7), keyed value].get
  have hsensitive : isSensitiveKey GoText.asciiTable "API_Key" = true := by decide +kernel
  have hcovered (value : Document Nat) :
      Document.mask (isSensitiveKey GoText.asciiTable) (.scalar .null) (keyed value) =
        .object ["API_Key"].toFinset fun _ => .scalar .null := by
    refine congrArg (Document.object _) (funext fun ⟨key, hkey⟩ => if_pos ?_)
    obtain rfl : key = "API_Key" := by simpa using hkey
    exact hsensitive
  refine redaction_noninterference GoText.asciiTable JsonText.codec _ _
    (listed (.scalar (.string "a"))) (listed (JsonText.ofFields [⟨"b", .scalar .null⟩]))
    (.scalar .null) rfl rfl (congrArg (Document.array 2) (funext fun i => ?_))
  match i with
  | 0 => rfl
  | 1 => exact (hcovered _).trans (hcovered _).symm

end Goshop.App.Redaction

import Goshop.ErrorContract.Wire

/-! What the client gets to see of an error that has come through several services. -/
namespace Goshop.ErrorContract.Delivery

open Goshop.Lib Goshop.Lib.Strconv Goshop.ErrorContract.Catalog Goshop.ErrorContract.Tree
  Goshop.ErrorContract.Wire

section Built

def Extends (older newer : Registry) : Prop :=
  ∀ code spec, older.lookup code = some spec → newer.lookup code = some spec

theorem registerAll_extends {older newer : Registry} {specs : List Spec}
    (h : registerAll older specs = .ok newer) : Extends older newer := by
  intro code spec hspec
  rw [(registerEach_ok (registerAll_ok.mp h).2).2, hspec, Option.some_or]

/-- The contract is that of a registered code, but for the message. -/
structure Minted (registry : Registry) (spec : Spec) : Prop where
  registered : ∃ known, registry.lookup spec.code = some known ∧ spec.kind = known.kind
  message : spec.message ≠ ""

/-- The errors of a process: what the constructors make of a contract while more and
more contracts are registered, and whatever else wraps errors. -/
inductive Built : Registry → Err → Prop
  | other {registry : Registry} (label : Label) (children : List Err)
      (hlabel : specOfLabel label = none) (hchildren : ∀ child ∈ children, Built registry child) :
      Built registry (.node label children)
  | newSpec (registry : Registry) (pointer : Nat) (spec : Spec) (internal : String) :
      Built registry (newSpec registry pointer spec internal)
  | newPublicSpec (registry : Registry) (pointer : Nat) (spec : Spec) (internal : String) :
      Built registry (newPublicSpec registry pointer spec internal)
  | wrapSpec {registry : Registry} {err : Err} (pointer : Nat) (spec : Spec) (internal : String)
      (herr : Built registry err) : Built registry (wrapSpec registry pointer err spec internal)
  | registered {older newer : Registry} {err : Err} {specs : List Spec}
      (hregister : registerAll older specs = .ok newer) (herr : Built older err) : Built newer err

variable {registry older newer : Registry} {err : Err} {spec : Spec}

theorem Minted.valid (h : Minted registry spec) : spec.kind.valid = true := by
  obtain ⟨known, hknown, hkind⟩ := h.registered
  rw [hkind]
  exact (registry.valid known (Registry.lookup_eq_some.mp hknown).1).kind

theorem Minted.code_pos (h : Minted registry spec) : 0 < spec.code := by
  obtain ⟨known, hknown, -⟩ := h.registered
  obtain ⟨hmem, hcode⟩ := Registry.lookup_eq_some.mp hknown
  rw [← hcode]
  exact (registry.valid known hmem).code

theorem Minted.mono (hextends : Extends older newer) (h : Minted older spec) :
    Minted newer spec where
  registered := by
    obtain ⟨known, hknown, hkind⟩ := h.registered
    exact ⟨known, hextends _ _ hknown, hkind⟩
  message := h.message

theorem minted_of_lookup {code : Int} (h : registry.lookup code = some spec) :
    Minted registry spec := by
  obtain ⟨hmem, hcode⟩ := Registry.lookup_eq_some.mp h
  exact ⟨⟨spec, hcode ▸ h, rfl⟩, (registry.valid spec hmem).message⟩

theorem specForCode_minted (code : Int) : Minted registry (specForCode registry code) := by
  cases h : registry.lookup code with
  | some known =>
    simp only [specForCode, h, Option.getD_some]
    exact minted_of_lookup h
  | none =>
    simp only [specForCode, h, Option.getD_none]
    exact minted_of_lookup registry.lookup_unknown

theorem catalogSpec_minted (spec : Spec) : Minted registry (catalogSpec registry spec) := by
  unfold catalogSpec
  split
  next known hknown => exact minted_of_lookup hknown
  next => exact specForCode_minted 1

theorem carries_withSpec {pointer : Nat} {own : Spec} {internal : String} {cause : List Err}
    (h : Carries (withSpec pointer own internal cause) spec) :
    spec = own ∨ ∃ inner ∈ cause, Carries inner spec := by
  obtain ⟨part, hpart, hspec⟩ := h
  rw [withSpec, Rose.parts] at hpart
  rcases List.mem_cons.mp hpart with rfl | hbelow
  · exact .inl (Option.some.inj hspec).symm
  · obtain ⟨inner, hinner, hmem⟩ := Rose.mem_partsAll.mp hbelow
    exact .inr ⟨inner, hinner, part, hmem, hspec⟩

theorem newSpec_carries {pointer : Nat} {own : Spec} {internal : String}
    (h : Carries (Tree.newSpec registry pointer own internal) spec) : Minted registry spec := by
  rcases carries_withSpec h with rfl | ⟨inner, hinner, -⟩
  · exact catalogSpec_minted own
  · cases hinner

theorem newPublicSpec_carries {pointer : Nat} {own : Spec} {internal : String}
    (h : Carries (Tree.newPublicSpec registry pointer own internal) spec) :
    Minted registry spec := by
  unfold Tree.newPublicSpec at h
  split at h
  next => exact newSpec_carries h
  next known hknown =>
    split at h
    next => exact newSpec_carries h
    next hallowed =>
      rcases carries_withSpec h with rfl | ⟨inner, hinner, -⟩
      · unfold safeSpec
        split
        · exact ⟨⟨known, hknown, by tauto⟩, by tauto⟩
        · exact specForCode_minted 1
      · cases hinner

theorem Built.minted (h : Built registry err) :
    ∀ spec, Carries err spec → Minted registry spec := by
  induction h with
  | other label children hlabel hchildren ih =>
    rintro spec ⟨part, hpart, hspec⟩
    rw [Rose.parts] at hpart
    rcases List.mem_cons.mp hpart with rfl | hbelow
    · cases hlabel.symm.trans hspec
    · obtain ⟨child, hchild, hmem⟩ := Rose.mem_partsAll.mp hbelow
      exact ih child hchild spec ⟨part, hmem, hspec⟩
  | newSpec => exact fun spec => newSpec_carries
  | newPublicSpec => exact fun spec => newPublicSpec_carries
  | wrapSpec pointer own internal herr ih =>
    intro spec hcarries
    rcases carries_withSpec hcarries with rfl | ⟨inner, hinner, hspec⟩
    · exact catalogSpec_minted own
    · rw [List.mem_singleton.mp hinner] at hspec
      exact ih spec hspec
  | registered hregister herr ih =>
    exact fun spec hspec => (ih spec hspec).mono (registerAll_extends hregister)

end Built

section Services

structure Frame where
  label : Label
  before : List Err
  after : List Err

def Frame.around (frame : Frame) (err : Err) : Err :=
  .node frame.label (frame.before ++ err :: frame.after)

/-- A service between the one that fails and the client, with the errors that its
layers put around what it gets. -/
structure Service where
  registry : Registry
  frames : List Frame

def Service.wrap (service : Service) (err : Err) : Err :=
  service.frames.foldr Frame.around err

def passed (errorText : Err → String) (err : Err) : List Service → Err
  | [] => err
  | service :: rest =>
    passed errorText (received service.registry errorText (service.wrap err)) rest

def isContext (label : Label) : Bool :=
  label.content = .canceled || label.content = .deadlineExceeded

def InTime (err : Err) : Prop :=
  ∀ part ∈ err.parts, isContext part.label = false

/-- The service puts neither a status nor the end of a context before what it
gets. -/
structure Frame.Plain (frame : Frame) : Prop where
  inTime : isContext frame.label = false ∧ ∀ err ∈ frame.before ++ frame.after, InTime err
  first : statusOfLabel frame.label = none ∧ ∀ err ∈ frame.before, innerStatus err = none

variable {registry : Registry} {errorText : Err → String} {err : Err} {status : Status}

theorem isError_eq_false (h : InTime err) :
    isError .canceled err = false ∧ isError .deadlineExceeded err = false := by
  simp only [isError, List.any_eq_false, decide_eq_true_eq]
  refine ⟨fun part hpart hcontent => ?_, fun part hpart hcontent => ?_⟩ <;>
  · have := h part hpart
    simp [isContext, hcontent] at this

theorem inTime_node {label : Label} {children : List Err} :
    InTime (.node label children) ↔
      isContext label = false ∧ ∀ child ∈ children, InTime child := by
  simp only [InTime, Rose.parts, List.forall_mem_cons, Rose.label]
  refine and_congr_right fun _ => ⟨fun h child hchild part hpart => ?_, fun h part hpart => ?_⟩
  · exact h part (Rose.mem_partsAll.mpr ⟨child, hchild, hpart⟩)
  · obtain ⟨child, hchild, hmem⟩ := Rose.mem_partsAll.mp hpart
    exact h child hchild part hmem

theorem innerStatus_eq (err : Err) : innerStatus err = Rose.first statusOfLabel [err] := by
  rw [innerStatus, Rose.first, Rose.partsAll, Rose.partsAll, List.append_nil]

theorem first_innerStatus_none {errs : List Err} (h : ∀ err ∈ errs, innerStatus err = none) :
    Rose.first statusOfLabel errs = none := by
  induction errs with
  | nil => exact Rose.first_nil _
  | cons err rest ih =>
    obtain ⟨hfirst, hrest⟩ := List.forall_mem_cons.mp h
    rw [Rose.first_cons, ← innerStatus_eq, hfirst, ih hrest, Option.or_none]

theorem Frame.Plain.keeps {frame : Frame} (h : frame.Plain) (hinTime : InTime err)
    (hstatus : innerStatus err = some status) :
    InTime (frame.around err) ∧ innerStatus (frame.around err) = some status := by
  refine ⟨inTime_node.mpr ⟨h.inTime.1, fun child hchild => ?_⟩, ?_⟩
  · rcases List.mem_append.mp hchild with hbefore | hrest
    · exact h.inTime.2 child (List.mem_append_left _ hbefore)
    · rcases List.mem_cons.mp hrest with rfl | hafter
      · exact hinTime
      · exact h.inTime.2 child (List.mem_append_right _ hafter)
  · rw [innerStatus_eq, Frame.around, Rose.first_node, Rose.first_append,
      Rose.first_cons _ err, ← innerStatus_eq err, hstatus, h.first.1,
      first_innerStatus_none h.first.2]
    rfl

theorem wrap_keeps {frames : List Frame} (h : ∀ frame ∈ frames, frame.Plain)
    (hinTime : InTime err) (hstatus : innerStatus err = some status) :
    InTime (frames.foldr Frame.around err) ∧
      innerStatus (frames.foldr Frame.around err) = some status := by
  induction frames with
  | nil => exact ⟨hinTime, hstatus⟩
  | cons frame rest ih =>
    obtain ⟨hframe, hrest⟩ := List.forall_mem_cons.mp h
    obtain ⟨hinTime', hstatus'⟩ := ih hrest
    exact hframe.keeps hinTime' hstatus'

/-- A status that is not the outermost error is passed on all the same, with another
message. -/
theorem received_status (registry : Registry) (errorText : Err → String) (hinTime : InTime err)
    (hstatus : innerStatus err = some status) :
    ∃ message, received registry errorText err = statusError 0 { status with message } := by
  obtain ⟨message, hfrom⟩ := fromError_some errorText hstatus
  obtain ⟨hcanceled, hlate⟩ := isError_eq_false hinTime
  refine ⟨message, ?_⟩
  rw [received, sentStatus_eq, hcanceled, hlate, hfrom]
  rfl

theorem statusError_inTime (pointer : Nat) : InTime (statusError pointer status) := by
  intro part hpart
  obtain rfl := List.mem_singleton.mp hpart
  rfl

theorem passed_status {services : List Service} {pointer : Nat}
    (hservices : ∀ service ∈ services, ∀ frame ∈ service.frames, frame.Plain) :
    responseFor registry errorText (passed errorText (statusError pointer status) services) =
      responseFor registry errorText (statusError pointer status) := by
  induction services generalizing status pointer with
  | nil => rfl
  | cons service rest ih =>
    obtain ⟨hservice, hrest⟩ := List.forall_mem_cons.mp hservices
    have hown : innerStatus (statusError pointer status) = some status := rfl
    obtain ⟨hinTime, hstatus⟩ := wrap_keeps hservice (statusError_inTime pointer) hown
    obtain ⟨message, hreceived⟩ := received_status service.registry errorText hinTime hstatus
    rw [passed, Service.wrap, hreceived, ih hrest, responseFor_statusError,
      responseFor_statusError]
    rfl

end Services

section Contract

variable {service gateway : Registry} {errorText : Err → String} {err : Err} {spec : Spec}

structure Own (err : Err) : Prop where
  inTime : InTime err
  noStatus : innerStatus err = none

theorem sentSpec_minted (h : Built service err) : Minted service (sentSpec service err) := by
  unfold sentSpec
  split
  next spec hspec =>
    split
    · exact specForCode_minted _
    · exact h.minted spec (specOf_carries hspec)
  next => exact specForCode_minted _

theorem responseSpec_own (errorText : Err → String) (hown : Own err) :
    responseSpec service errorText err = sentSpec service err := by
  have hnone : fromError errorText err = none := fromError_none.mpr hown.noStatus
  have hfallback : fallbackSpec service errorText err = parsedSpec service err := by
    rw [fallbackSpec, specFromGRPC, hnone]
    rfl
  rw [responseSpec, hfallback, sentSpec]

theorem sentStatus_own (service : Registry) (errorText : Err → String) (hown : Own err) :
    sentStatus service errorText err =
      ⟨codeForKind (sentSpec service err).kind, (sentSpec service err).message,
        [businessInfo (sentSpec service err)]⟩ := by
  obtain ⟨hcanceled, hlate⟩ := isError_eq_false hown.inTime
  rw [sentStatus_eq, hcanceled, hlate, fromError_none.mpr hown.noStatus]
  rfl

/-- What the gateway makes of a contract, given what is registered for its code. -/
def restored (known spec : Spec) : Spec :=
  if spec.code = errValidation then { known with message := spec.message } else known

theorem restored_kind (known spec : Spec) : (restored known spec).kind = known.kind := by
  by_cases h : spec.code = errValidation <;> simp [restored, h]

theorem restored_code (known spec : Spec) : (restored known spec).code = known.code := by
  by_cases h : spec.code = errValidation <;> simp [restored, h]

theorem restored_message (known spec : Spec) : (restored known spec).message =
    if spec.code = errValidation then spec.message else known.message := by
  by_cases h : spec.code = errValidation <;> simp [restored, h]

theorem trustedSpec_minted {known : Spec} (hminted : Minted service spec)
    (hknown : gateway.lookup spec.code = some known) (metadata : List (String × String))
    (hcode : metadataValue metadata "business_code" = itoa spec.code)
    (hmessage : metadataValue metadata "public_message" = spec.message) :
    trustedSpec gateway metadata = if spec.code = 1 then none else some (restored known spec) := by
  have hpos := hminted.code_pos
  have hsame : known.code = spec.code := (Registry.lookup_eq_some.mp hknown).2
  have hspec : specForCode gateway spec.code = known := by
    rw [specForCode, hknown, Option.getD_some]
  rw [trustedSpec, hcode, atoi_itoa (Int.le_of_lt hpos) spec.fits]
  simp only [hspec, hsame, hmessage, if_neg (Int.not_le.mpr hpos)]
  split
  · rfl
  · by_cases hvalidation : spec.code = errValidation
    · simp [restored, hvalidation, hminted.message, hsame]
    · simp [restored, hvalidation]

theorem statusSpec_minted {known : Spec} (hminted : Minted service spec)
    (hextends : Extends service gateway) (hknown : service.lookup spec.code = some known) :
    (statusSpec gateway ⟨codeForKind spec.kind, spec.message, [businessInfo spec]⟩).getD
      unknownSpec = restored known spec := by
  have hdetail : detailSpec gateway [businessInfo spec] =
      if spec.code = 1 then none else some (restored known spec) :=
    trustedSpec_minted hminted (hextends _ _ hknown) _ rfl rfl
  rw [statusSpec, hdetail]
  by_cases hunknown : spec.code = 1
  · -- the code of unknown errors is not trusted, but neither does its kind say more
    have hunknownSpec : known = unknownSpec := by
      rw [hunknown, service.lookup_unknown] at hknown
      exact (Option.some.inj hknown).symm
    obtain ⟨registered, hregistered, hkind⟩ := hminted.registered
    rw [hknown] at hregistered
    cases hregistered
    rw [if_pos hunknown, hkind, hunknownSpec, restored, if_neg (by rw [hunknown]; decide)]
    rfl
  · rw [if_neg hunknown, Option.some_or, Option.getD_some]

/-- However many services there are in between, the client gets what the gateway makes
of the status that the failing service sends. -/
theorem passed_received {services : List Service} (service gateway : Registry)
    (hservices : ∀ service ∈ services, ∀ frame ∈ service.frames, frame.Plain) :
    responseFor gateway errorText (passed errorText (received service errorText err) services) =
      responseOf ((statusSpec gateway (sentStatus service errorText err)).getD unknownSpec) := by
  rw [received, passed_status hservices, responseFor_statusError]

theorem response_own (hbuilt : Built service err) (hown : Own err)
    (hextends : Extends service gateway) :
    let here := responseFor service errorText err
    let there := responseOf
      ((statusSpec gateway (sentStatus service errorText err)).getD unknownSpec)
    there.status = here.status ∧ there.code = here.code ∧
      there.message =
        if here.code = 100004 then here.message else (specForCode service here.code).message := by
  intro here there
  have hminted := sentSpec_minted hbuilt
  obtain ⟨known, hknown, hkind⟩ := hminted.registered
  have hhere : here = responseOf (sentSpec service err) := by
    rw [← responseSpec_own errorText hown]
    rfl
  have hthere : there = responseOf (restored known (sentSpec service err)) := by
    unfold there
    rw [sentStatus_own service errorText hown, statusSpec_minted hminted hextends hknown]
  have hcode : known.code = (sentSpec service err).code := (Registry.lookup_eq_some.mp hknown).2
  rw [hhere, hthere]
  refine ⟨?_, ?_, ?_⟩ <;> simp only [responseOf]
  · rw [restored_kind, hkind]
  · rw [restored_code, hcode]
  · rw [restored_message, specForCode, hknown, Option.getD_some]
    rfl

/-- The client gets the status and the code of the contract that the failing service
attached, however the services on the way wrap the error. The message is the
registered one, but for validation errors, whose own message goes all the way. The
contract is lost where the error also has the end of a context in it, or a status. -/
theorem contract_survives_services (errorText : Err → String) (err : Err)
    (services : List Service) (hbuilt : Built service err)
    (hservices : ∀ service ∈ services, ∀ frame ∈ service.frames, frame.Plain)
    (hextends : Extends service gateway) :
    let here := responseFor service errorText err
    let there :=
      responseFor gateway errorText (passed errorText (received service errorText err) services)
    (Own err → there.status = here.status ∧ there.code = here.code ∧
      there.message =
        if here.code = 100004 then here.message else (specForCode service here.code).message) ∧
    (isError .canceled err = true → there = responseOf unknownSpec) ∧
    (isError .canceled err = false → isError .deadlineExceeded err = true →
      there = responseOf (specForCode gateway errTimeout)) ∧
    (InTime err → ∀ status, innerStatus err = some status →
      there = responseFor gateway errorText (statusError 0 status)) := by
  dsimp only
  rw [passed_received service gateway hservices]
  refine ⟨fun hown => response_own hbuilt hown hextends, ?_, ?_, ?_⟩
  · intro hcanceled
    rw [sentStatus_eq, hcanceled]
    rfl
  · intro hgoing hlate
    rw [sentStatus_eq, hgoing, hlate]
    rfl
  · intro hinTime status hstatus
    obtain ⟨message, hfrom⟩ := fromError_some errorText hstatus
    obtain ⟨hgoing, hpunctual⟩ := isError_eq_false hinTime
    rw [sentStatus_eq, hgoing, hpunctual, hfrom, responseFor_statusError]
    rfl

end Contract

section Inventory

def inventoryRegistry : Registry :=
  Registry.initial.add invNotEnoughSpec ⟨by decide, rfl, by decide⟩ (by decide)

def soldOut : Err :=
  newSpec inventoryRegistry 1 invNotEnoughSpec "goods 7: 3 of 5 left"

def orderService : Service where
  registry := .initial
  frames := [⟨⟨some 2, .text "reserve stock"⟩, [], []⟩]

theorem soldOut_own : Own soldOut where
  inTime := by
    intro part hpart
    obtain rfl := List.mem_singleton.mp hpart
    rfl
  noStatus := rfl

theorem orderService_plain : ∀ service ∈ [orderService], ∀ frame ∈ service.frames,
    frame.Plain := by
  intro service hservice frame hframe
  obtain rfl := List.mem_singleton.mp hservice
  obtain rfl := List.mem_singleton.mp hframe
  exact ⟨⟨rfl, by simp⟩, ⟨rfl, by simp⟩⟩

def plainText (err : Err) : String :=
  match err.label.content with
  | .text message | .coded _ message => message
  | _ => "error"

theorem contract_survives_order_service :
    (responseFor inventoryRegistry plainText
      (passed plainText (received inventoryRegistry plainText soldOut) [orderService])).code =
        100603 :=
  ((contract_survives_services plainText soldOut [orderService]
    (.newSpec inventoryRegistry 1 invNotEnoughSpec "goods 7: 3 of 5 left")
    orderService_plain fun _ _ h => h).1 soldOut_own).2.1

end Inventory

section Hidden

def hideStatus (status : Status) : Status :=
  { status with message := "" }

def hideContent : Content → Content
  | .text _ => .text ""
  | .coded spec _ => .coded spec ""
  | .status status => .status (hideStatus status)
  | content => content

def hide (label : Label) : Label :=
  { label with content := hideContent label.content }

def Alike (err err' : Err) : Prop :=
  err.map hide = err'.map hide

variable {registry : Registry} {errorText errorText' : Err → String} {err err' : Err}

theorem specOfLabel_hide (label : Label) : specOfLabel (hide label) = specOfLabel label := by
  obtain ⟨pointer, content⟩ := label
  cases content <;> rfl

theorem statusOfLabel_hide (label : Label) :
    statusOfLabel (hide label) = (statusOfLabel label).map hideStatus := by
  obtain ⟨pointer, content⟩ := label
  cases content <;> rfl

theorem specOf_hide (err : Err) : specOf (err.map hide) = specOf err := by
  simp only [specOf, walkErrors, Rose.walk_map, specOfLabel_hide]
  rfl

theorem isError_hide {content : Content} (hcontent : ∀ label : Label,
    (hide label).content = content ↔ label.content = content) (err : Err) :
    isError content (err.map hide) = isError content err := by
  simp only [isError, Rose.parts_map, List.any_map, Function.comp_def, Rose.label_map, hcontent]

theorem innerStatus_hide (err : Err) :
    innerStatus (err.map hide) = (innerStatus err).map hideStatus := by
  simp only [innerStatus, Rose.parts_map, List.findSome?_map, Function.comp_def, Rose.label_map,
    statusOfLabel_hide, List.map_findSome?]

theorem fromError_hide (errorText : Err → String) (err : Err) :
    (fromError errorText err).map hideStatus = innerStatus (err.map hide) := by
  rw [innerStatus_hide]
  cases hstatus : innerStatus err with
  | none => rw [fromError_none.mpr hstatus]
  | some status =>
    obtain ⟨message, hfrom⟩ := fromError_some errorText hstatus
    rw [hfrom]
    rfl

theorem Alike.specOf (h : Alike err err') : specOf err = specOf err' := by
  rw [← specOf_hide, h, specOf_hide]

theorem Alike.parsedSpec (h : Alike err err') :
    parsedSpec registry err = Wire.parsedSpec registry err' := by
  rw [Wire.parsedSpec, parseCoder, h.specOf]
  rfl

theorem Alike.fromError (h : Alike err err') (errorText errorText' : Err → String) :
    (fromError errorText err).map hideStatus = (Wire.fromError errorText' err').map hideStatus := by
  rw [fromError_hide, h, fromError_hide]

theorem Alike.isError (h : Alike err err') {content : Content} (hcontent : ∀ label : Label,
    (hide label).content = content ↔ label.content = content) :
    isError content err = Wire.isError content err' := by
  rw [← isError_hide hcontent err, h, isError_hide hcontent]

theorem hide_canceled (label : Label) :
    (hide label).content = .canceled ↔ label.content = .canceled := by
  obtain ⟨pointer, content⟩ := label
  cases content <;> simp [hide, hideContent]

theorem hide_deadlineExceeded (label : Label) :
    (hide label).content = .deadlineExceeded ↔ label.content = .deadlineExceeded := by
  obtain ⟨pointer, content⟩ := label
  cases content <;> simp [hide, hideContent]

theorem Alike.sentStatus (h : Alike err err') :
    hideStatus (sentStatus registry errorText err) =
      hideStatus (Wire.sentStatus registry errorText' err') := by
  have hsent : sentSpec registry err = sentSpec registry err' := by
    rw [sentSpec, h.specOf, h.parsedSpec, sentSpec]
  rw [sentStatus_eq, sentStatus_eq, h.isError hide_canceled, h.isError hide_deadlineExceeded, hsent]
  split
  · rfl
  · split
    · rfl
    · have hstatus := h.fromError errorText errorText'
      cases hfrom : Wire.fromError errorText err with
      | none =>
        rw [hfrom] at hstatus
        rw [Option.map_eq_none_iff.mp hstatus.symm]
      | some status =>
        rw [hfrom] at hstatus
        obtain ⟨status', hfrom', hsame⟩ := Option.map_eq_some_iff.mp hstatus.symm
        rw [hfrom']
        exact hsame.symm

theorem Alike.received (h : Alike err err') :
    Alike (received registry errorText err) (Wire.received registry errorText' err') := by
  have hstatus (status : Status) :
      (statusError 0 status).map hide = statusError 0 (hideStatus status) := rfl
  rw [Alike, Wire.received, Wire.received, hstatus, hstatus, h.sentStatus]

theorem mapAll_append (errs rest : List Err) :
    Rose.mapAll hide (errs ++ rest) = Rose.mapAll hide errs ++ Rose.mapAll hide rest := by
  induction errs with
  | nil => rfl
  | cons err errs ih => rw [List.cons_append, Rose.mapAll, ih, Rose.mapAll, List.cons_append]

theorem Alike.around (frame : Frame) (h : Alike err err') :
    Alike (frame.around err) (frame.around err') := by
  rw [Alike, Frame.around, Frame.around, Rose.map, Rose.map, mapAll_append, mapAll_append,
    Rose.mapAll, Rose.mapAll, h]

theorem Alike.wrap (frames : List Frame) (h : Alike err err') :
    Alike (frames.foldr Frame.around err) (frames.foldr Frame.around err') := by
  induction frames with
  | nil => exact h
  | cons frame rest ih => exact ih.around frame

theorem Alike.passed (services : List Service) (h : Alike err err') :
    Alike (passed errorText err services) (Delivery.passed errorText' err' services) := by
  induction services generalizing err err' with
  | nil => exact h
  | cons service rest ih => exact ih (h.wrap service.frames).received

theorem Alike.response (h : Alike err err') :
    responseFor registry errorText err = responseFor registry errorText' err' := by
  have hgrpc : specFromGRPC registry errorText err = specFromGRPC registry errorText' err' := by
    have hblind (status : Option Status) : status.bind (statusSpec registry) =
        (status.map hideStatus).bind (statusSpec registry) := by
      cases status <;> rfl
    rw [specFromGRPC, hblind, h.fromError errorText errorText', ← hblind, specFromGRPC]
  have hfallback : fallbackSpec registry errorText err = fallbackSpec registry errorText' err' := by
    rw [fallbackSpec, hgrpc, h.parsedSpec, fallbackSpec]
  rw [responseFor, responseSpec, h.specOf, hfallback, responseFor, responseSpec]

/-- No diagnostic reaches the client: two errors that differ only in the texts of
their parts and in the messages of statuses get the same response, at the gateway
itself and through any services, whatever texts errors have. -/
theorem diagnostics_stay_inside (registry : Registry) (errorText errorText' : Err → String)
    (services : List Service) (err err' : Err) (h : err.map hide = err'.map hide) :
    responseFor registry errorText (passed errorText err services) =
      responseFor registry errorText' (passed errorText' err' services) := by
  have halike : Alike err err' := h
  exact (halike.passed services).response

def soldOutElsewhere : Err :=
  newSpec inventoryRegistry 1 invNotEnoughSpec "select stocks: connection to 10.0.3.7 lost"

theorem diagnostics_stay_inside_order_service :
    responseFor inventoryRegistry plainText (passed plainText soldOut [orderService]) =
      responseFor inventoryRegistry plainText
        (passed plainText soldOutElsewhere [orderService]) :=
  diagnostics_stay_inside inventoryRegistry plainText plainText [orderService] soldOut
    soldOutElsewhere rfl

end Hidden

section UserClient

variable (registry : Registry) (errorText : Err → String) (pointer : Nat)

def newValidationError (message : String) : Err :=
  newPublicSpec registry pointer (validationSpec message) message

def convert (err : Err) : Status :=
  (fromError errorText err).getD ⟨.unknown, errorText err, []⟩

def userRPCError (err : Err) (invalidArgumentCode : Int) : Err :=
  match specFromGRPC registry errorText err with
  | some spec =>
    if spec.code = errValidation then newValidationError registry pointer spec.message
    else newSpec registry pointer spec "user service request failed"
  | none =>
    match (convert errorText err).code with
    | .notFound => newCode registry pointer errUserNotFound "用户不存在"
    | .aborted | .alreadyExists =>
      newCode registry pointer errUserAlreadyExists "user service reported a duplicate user"
    | .invalidArgument =>
      let message := (convert errorText err).message
      if invalidArgumentCode = errValidation ∧ message ≠ "" then
        newValidationError registry pointer message
      else newCode registry pointer invalidArgumentCode message
    | _ => err

variable {registry errorText pointer} {err : Err} {spec : Spec} {status : Status}

theorem responseFor_withSpec (hvalid : spec.kind.valid = true) (internal : String) :
    responseFor registry errorText (withSpec pointer spec internal []) = responseOf spec := by
  have hspec : specOf (withSpec pointer spec internal []) = some spec := rfl
  have hkind : spec.kind ≠ .other "" := by
    intro h
    rw [h] at hvalid
    cases hvalid
  rw [responseFor, responseSpec, hspec]
  exact congrArg responseOf (if_neg hkind)

structure Public (registry : Registry) (spec : Spec) : Prop where
  minted : Minted registry spec
  registered : spec.code ≠ errValidation → registry.lookup spec.code = some spec

theorem specForCode_public (registry : Registry) (code : Int) :
    Public registry (specForCode registry code) where
  minted := specForCode_minted code
  registered _ := by
    have h (known : Spec) (other : Int) (hknown : registry.lookup other = some known) :
        registry.lookup known.code = some known := by
      rw [(Registry.lookup_eq_some.mp hknown).2, hknown]
    cases hlookup : registry.lookup code with
    | some known =>
      simp only [specForCode, hlookup, Option.getD_some]
      exact h known code hlookup
    | none =>
      simp only [specForCode, hlookup, Option.getD_none]
      exact registry.lookup_unknown

theorem trustedSpec_public {metadata : List (String × String)}
    (h : trustedSpec registry metadata = some spec) : Public registry spec := by
  unfold trustedSpec at h
  split at h
  · cases h
  next code hcode =>
    have hknown := specForCode_public registry code
    split at h
    · cases h
    · dsimp only at h
      split at h
      · cases h
      · split at h
        next hvalidation =>
          cases h
          exact ⟨⟨hknown.minted.registered, hvalidation.2⟩,
            fun hother => absurd hvalidation.1 hother⟩
        next =>
          cases h
          exact hknown

theorem detailSpec_public {details : List Detail} (h : detailSpec registry details = some spec) :
    Public registry spec := by
  induction details with
  | nil => cases h
  | cons detail rest ih =>
    cases detail with
    | other => exact ih h
    | errorInfo reason domain metadata =>
      rw [detailSpec] at h
      split at h
      · exact ih h
      · exact trustedSpec_public h

theorem genericSpec_public {code : GrpcCode} (h : genericSpec registry code = some spec) :
    Public registry spec := by
  cases code <;> simp only [genericSpec, Option.some.injEq, reduceCtorEq] at h <;>
  · rw [← h]
    exact specForCode_public registry _

theorem statusSpec_public (h : statusSpec registry status = some spec) : Public registry spec := by
  rcases Option.or_eq_some_iff.mp h with hdetail | ⟨-, hgeneric⟩
  · exact detailSpec_public hdetail
  · exact genericSpec_public hgeneric

theorem responseFor_newSpec (hpublic : Public registry spec) (hcode : spec.code ≠ errValidation)
    (internal : String) :
    responseFor registry errorText (newSpec registry pointer spec internal) = responseOf spec := by
  have hcatalog : catalogSpec registry spec = spec := by
    rw [catalogSpec, hpublic.registered hcode]
  rw [newSpec, hcatalog, responseFor_withSpec hpublic.minted.valid]

theorem responseFor_newValidationError (hloaded : Loaded registry)
    (hminted : Minted registry spec) (hcode : spec.code = errValidation) :
    responseFor registry errorText (newValidationError registry pointer spec.message) =
      responseOf spec := by
  obtain ⟨known, hknown, hkind⟩ := hminted.registered
  have hlookup : registry.lookup 100004 = some (validationSpec "Validation failed") :=
    hloaded (validationSpec "Validation failed") (by decide)
  have hinvalid : spec.kind = .invalidArgument := by
    rw [hcode, errValidation, hlookup] at hknown
    rw [hkind, ← Option.some.inj hknown]
    rfl
  have hvalid (own : Spec) (hown : own.Valid) : safeSpec registry own = own := by
    rw [safeSpec, validate_ok.mpr hown]
  have hsafe := hvalid (validationSpec spec.message)
    ⟨by simp [validationSpec], rfl, hminted.message⟩
  have hnew : newValidationError registry pointer spec.message =
      withSpec pointer (validationSpec spec.message) spec.message [] := by
    have hown : registry.lookup (validationSpec spec.message).code =
        some (validationSpec "Validation failed") := hlookup
    have hallowed : ¬((validationSpec spec.message).kind ≠ .invalidArgument ∨
        (validationSpec spec.message).message = "") := by
      simpa [validationSpec] using hminted.message
    rw [newValidationError, newPublicSpec, hown]
    refine (if_neg hallowed).trans ?_
    exact congrArg (fun own => withSpec pointer own spec.message []) hsafe
  rw [hnew, responseFor_withSpec rfl, responseOf, responseOf, hinvalid, hcode]
  rfl

/-- The client of the user service changes nothing about the response to the user,
whatever code its caller gives it for invalid arguments. In particular, it does
not get to where it would show the message of a status. -/
theorem user_rpc_error_transparent (registry : Registry) (errorText : Err → String)
    (pointer : Nat) (err : Err) (invalidArgumentCode : Int) (hloaded : Loaded registry)
    (huncoded : specOf err = none) :
    responseFor registry errorText
      (userRPCError registry errorText pointer err invalidArgumentCode) =
        responseFor registry errorText err := by
  have hfallback : responseSpec registry errorText err = fallbackSpec registry errorText err := by
    rw [responseSpec, huncoded]
  unfold userRPCError
  split
  next spec hspec =>
    obtain ⟨status, -, hstatus⟩ := Option.bind_eq_some_iff.mp hspec
    have hpublic := statusSpec_public hstatus
    rw [responseFor.eq_def registry errorText err, hfallback, fallbackSpec, hspec,
      Option.getD_some]
    split
    next hcode => exact responseFor_newValidationError hloaded hpublic.minted hcode
    next hcode => exact responseFor_newSpec hpublic hcode _
  next hnone =>
    -- every code with a branch of its own has a contract of its own
    have hgeneric : genericSpec registry (convert errorText err).code = none := by
      rw [convert]
      cases hfrom : fromError errorText err with
      | none => rfl
      | some status =>
        rw [specFromGRPC, hfrom, Option.bind_some, statusSpec, Option.or_eq_none_iff] at hnone
        exact hnone.2
    split
    next hcode => simp [hcode, genericSpec] at hgeneric
    next hcode => simp [hcode, genericSpec] at hgeneric
    next hcode => simp [hcode, genericSpec] at hgeneric
    next hcode => simp [hcode, genericSpec] at hgeneric
    next => rfl

theorem user_rpc_error_transparent_missing : ∃ registry, Loaded registry ∧
    responseFor registry plainText (userRPCError registry plainText 1
      (statusError 0 ⟨.notFound, "no rows in users", []⟩) errValidation) =
        responseFor registry plainText (statusError 0 ⟨.notFound, "no rows in users", []⟩) := by
  obtain ⟨registry, -, hloaded⟩ := catalog_registers
  exact ⟨registry, hloaded, user_rpc_error_transparent registry plainText 1 _ errValidation hloaded
    rfl⟩

end UserClient

end Goshop.ErrorContract.Delivery

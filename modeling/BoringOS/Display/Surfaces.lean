import BoringOS.Display.Messages

namespace BoringOS.Display

/-!
# The surfaces of the display server

A transcription of the table of surfaces in `user/boring-display/core.c`, of the
placements in `user/boring-display/managed.c` and of the messages in
`user/boring-display/server.c` that reach them.  A connection goes by its handle,
which is not given twice, and what the kernel answers is left open.  The pixels
and the presentation of what has changed are left out.
-/

def boringDisplayProtocolVersion : Nat := 1
def boringDisplayPixelFormatXrgb8888 : Nat := 1
def boringDisplayBytesPerPixel : Nat := 4
def boringDisplayRequestCreate : Nat := 1
def boringDisplayRequestCommit : Nat := 2
def boringDisplayRequestDestroy : Nat := 3
def boringDisplayRequestCommitDamage : Nat := 4
def boringBufferMaxBytes : Nat := 64 * 1024 * 1024
def surfaceGenerationMax : Nat := 0x00ffffff
def uint32Max : Nat := 2 ^ 32 - 1
def uint64Max : Nat := 2 ^ 64 - 1

/-- `struct boring_display_surface_state` -/
structure DisplaySurface where
  ownerEndpoint : Nat
  token : Nat
  width : Nat
  height : Nat
  stride : Nat
  bufferHandle : Nat
  pixels : Nat
  generation : Nat
  creationOrder : Nat
  active : Bool
deriving DecidableEq, Repr

/-- `struct boring_display_core` -/
structure DisplayCore where
  width : Nat
  height : Nat
  liveSurfaces : Nat
  nextCreationOrder : Nat
  surfaces : Nat → DisplaySurface

/-- `struct display_placement` -/
structure DisplayPlacement where
  surface : Nat
  window : Nat
  x : Nat
  y : Nat
  width : Nat
  height : Nat
  border : Nat
  color : Nat
  order : Nat
  ownerPid : Nat
  delegated : Bool
  visible : Bool
deriving DecidableEq, Repr

def noPlacement : DisplayPlacement := ⟨0, 0, 0, 0, 0, 0, 0, 0, 0, 0, false, false⟩

/-- `struct display_managed` -/
structure DisplayManaged where
  managerEndpoint : Nat
  background : Nat
  wallpaper : Bool
  placements : Nat → DisplayPlacement

/-- What the server keeps of surfaces, placements and the manager -/
structure DisplayTable where
  core : DisplayCore
  managed : DisplayManaged
  managerSeen : Bool
  inputPending : Bool
  focusPresentPending : Bool

/-- The table after `boring_display_core_init` and `display_managed_init` -/
def displayTable (width height : Nat) : DisplayTable where
  core :=
    { width := width
      height := height
      liveSurfaces := 0
      nextCreationOrder := 1
      surfaces := fun _ => ⟨0, 0, 0, 0, 0, 0, 0, 1, 0, false⟩ }
  managed := ⟨0, 0x00282828, false, fun _ => noPlacement⟩
  managerSeen := false
  inputPending := false
  focusPresentPending := false

/-- `next_generation` -/
def nextSurfaceGeneration (generation : Nat) : Nat :=
  if generation = 0 ∨ surfaceGenerationMax ≤ generation then 1 else generation + 1

/-- `token_encode` -/
def tokenEncode (slot generation : Nat) : Nat :=
  if boringDisplaySurfaceMax ≤ slot ∨ generation = 0 then 0 else generation <<< 8 ||| (slot + 1)

variable (core : DisplayCore)

/-- `surface_lookup`, with the slot of the surface -/
def surfaceLookup (token : Nat) : Option Nat :=
  let low := token &&& 255
  let generation := token >>> 8
  if token = 0 ∨ low = 0 ∨ boringDisplaySurfaceMax < low ∨ generation = 0 then none
  else
    let surface := core.surfaces (low - 1)
    if surface.active = true ∧ surface.generation = generation ∧ surface.token = token then
      some (low - 1)
    else none

/-- `struct boring_display_request` -/
structure DisplayRequest where
  version : Nat
  type : Nat
  surfaceToken : Nat
  width : Nat
  height : Nat
  stride : Nat
  pixelFormat : Nat
  reserved : Nat
  byteSize : Nat
deriving DecidableEq, Repr

/-- `boring_display_validate_create` -/
def validateCreate (request : DisplayRequest) (actualBufferSize : Nat) : DisplayStatus :=
  let rowBytes := request.width * boringDisplayBytesPerPixel
  let required := rowBytes * request.height
  if request.version ≠ boringDisplayProtocolVersion ∨
      request.type ≠ boringDisplayRequestCreate ∨ request.surfaceToken ≠ 0 ∨
      request.reserved ≠ 0 ∨ request.pixelFormat ≠ boringDisplayPixelFormatXrgb8888 ∨
      request.width = 0 ∨ request.height = 0 ∨ core.width < request.width ∨
      core.height < request.height then .invalid
  else if uint32Max < rowBytes ∨ request.stride ≠ rowBytes ∨
      uint64Max / rowBytes < request.height then .invalid
  else if required = 0 ∨ request.byteSize ≠ required ∨ actualBufferSize ≠ required ∨
      boringBufferMaxBytes < required then .invalid
  else .ok

/-- `boring_display_surface_add`, with the token of the new surface -/
def surfaceAdd (ownerEndpoint : Nat) (request : DisplayRequest)
    (bufferHandle pixels : Nat) : DisplayStatus × DisplayCore × Nat :=
  if ownerEndpoint = 0 ∨ bufferHandle = 0 ∨ pixels = 0 then (.invalid, core, 0)
  else if boringDisplaySurfaceMax ≤ core.liveSurfaces then (.noSpace, core, 0)
  else if core.nextCreationOrder = 0 then (.internal, core, 0)
  else
    match (List.range boringDisplaySurfaceMax).find? fun index =>
        !(core.surfaces index).active with
    | none => (.noSpace, core, 0)
    | some index =>
      let generation := (core.surfaces index).generation
      let token := tokenEncode index generation
      if token = 0 then (.internal, core, 0)
      else
        (.ok,
          { core with
            liveSurfaces := core.liveSurfaces + 1
            nextCreationOrder :=
              if core.nextCreationOrder = uint64Max then 0 else core.nextCreationOrder + 1
            surfaces := Function.update core.surfaces index
              { ownerEndpoint := ownerEndpoint
                token := token
                width := request.width
                height := request.height
                stride := request.stride
                bufferHandle := bufferHandle
                pixels := pixels
                generation := generation
                creationOrder := core.nextCreationOrder
                active := true } },
          token)

/-- `boring_display_surface_commit` -/
def surfaceCommit (ownerEndpoint token : Nat) : DisplayStatus :=
  match surfaceLookup core token with
  | none => .invalid
  | some slot => if (core.surfaces slot).ownerEndpoint = ownerEndpoint then .ok else .access

/-- A surface that has been given up -/
def clearedSurface (surface : DisplaySurface) : DisplaySurface :=
  ⟨0, 0, 0, 0, 0, 0, 0, nextSurfaceGeneration surface.generation, 0, false⟩

/-- `boring_display_surface_destroy` -/
def surfaceDestroy (ownerEndpoint token : Nat) : DisplayStatus × DisplayCore :=
  match surfaceLookup core token with
  | none => (.invalid, core)
  | some slot =>
    if (core.surfaces slot).ownerEndpoint ≠ ownerEndpoint then (.access, core)
    else
      (.ok,
        { core with
          liveSurfaces := core.liveSurfaces - 1
          surfaces := Function.update core.surfaces slot (clearedSurface (core.surfaces slot)) })

/-- A surface that `boring_display_peer_cleanup` gives up -/
def ownedBy (endpoint slot : Nat) : Bool :=
  decide (slot < boringDisplaySurfaceMax) && (core.surfaces slot).active &&
    (core.surfaces slot).ownerEndpoint == endpoint

/-- `boring_display_peer_cleanup` -/
def peerCleanup (endpoint : Nat) : DisplayCore :=
  if endpoint = 0 then core
  else
    { core with
      liveSurfaces :=
        core.liveSurfaces - (List.range boringDisplaySurfaceMax).countP (ownedBy core endpoint)
      surfaces := fun slot =>
        if ownedBy core endpoint slot = true then clearedSurface (core.surfaces slot)
        else core.surfaces slot }

variable (managed : DisplayManaged)

/-- `display_managed_forget` -/
def managedForget (surface : Nat) : DisplayManaged :=
  { managed with
    placements := fun index =>
      if index < boringDisplaySurfaceMax ∧ (managed.placements index).surface = surface then
        noPlacement
      else managed.placements index }

/-- The first active surface of a token, as `display_managed_control` searches it -/
def surfaceIndex (token : Nat) : Option Nat :=
  (List.range boringDisplaySurfaceMax).find? fun index =>
    (core.surfaces index).active && (core.surfaces index).token == token

def DisplayManaged.setPlacement (index : Nat) (placement : DisplayPlacement) : DisplayManaged :=
  { managed with placements := Function.update managed.placements index placement }

/-- What `DISPLAY_PLACE` asks of the rectangle -/
def placeable (surface : DisplaySurface) (request : DisplayControl) : Bool :=
  decide (request.x ≤ core.width ∧ request.y ≤ core.height ∧
    request.width ≤ core.width - request.x ∧ request.height ≤ core.height - request.y ∧
    request.border ≤ request.width / 2 ∧ request.border ≤ request.height / 2 ∧
    request.width - 2 * request.border ≤ surface.width ∧
    request.height - 2 * request.border ≤ surface.height ∧
    request.order < boringDisplaySurfaceMax ∧ PlainColor request.color)

/-- The part of `display_managed_control` that is about one surface -/
def placementControl (core : DisplayCore) (endpoint peerPid index : Nat)
    (request : DisplayControl) : DisplayStatus × DisplayManaged :=
  let surface := core.surfaces index
  let placement := managed.placements index
  match request.type with
  | .delegate =>
    if surface.ownerEndpoint ≠ endpoint ∨ peerPid = 0 then (.access, managed)
    else if placement.delegated = true ∨ placement.window ≠ 0 then (.invalid, managed)
    else
      (.ok, managed.setPlacement index
        { noPlacement with
          surface := surface.token
          ownerPid := peerPid
          delegated := true })
  | type =>
    if placement.delegated = false ∨ placement.surface ≠ request.surface then (.access, managed)
    else
      match type with
      | .bind =>
        if placement.ownerPid ≠ request.ownerPid ∨ placement.window ≠ 0 then (.access, managed)
        else (.ok, managed.setPlacement index { placement with window := request.window })
      | .unbind =>
        if placement.window ≠ request.window then (.access, managed)
        else
          (.ok, managed.setPlacement index
            { placement with
              window := 0
              visible := false })
      | .place =>
        if placement.window ≠ request.window then (.access, managed)
        else if placeable core surface request = false then (.invalid, managed)
        else
          (.ok, managed.setPlacement index
            { placement with
              x := request.x
              y := request.y
              width := request.width
              height := request.height
              border := request.border
              color := request.color
              order := request.order
              visible := decide (request.width ≠ 0 ∧ request.height ≠ 0) })
      | _ => if placement.window ≠ request.window then (.access, managed) else (.invalid, managed)

/-- The colours of `DISPLAY_PRESENT_FOCUS` -/
def focusColors (request : DisplayControl) : DisplayManaged :=
  { managed with
    placements := fun index =>
      let placement := managed.placements index
      if index < boringDisplaySurfaceMax ∧ placement.visible = true then
        { placement with
          color := if placement.window = request.window then request.color else request.background }
      else placement }

/-- `display_managed_control` -/
def managedControl (core : DisplayCore) (endpoint peerPid : Nat)
    (request : DisplayControl) : DisplayStatus × DisplayManaged :=
  if endpoint = 0 ∨ displayControlValidate request ≠ .ok then (.invalid, managed)
  else if request.type ≠ .delegate ∧ endpoint ≠ managed.managerEndpoint then (.access, managed)
  else
    match request.type with
    | .present =>
      if ¬PlainColor request.background then (.invalid, managed)
      else
        (.ok,
          { managed with
            background := request.background
            wallpaper := true })
    | .presentFocus =>
      if (List.range boringDisplaySurfaceMax).any fun index =>
          (managed.placements index).visible && (managed.placements index).window == request.window then
        (.ok, focusColors managed request)
      else (.invalid, managed)
    | _ =>
      match surfaceIndex core request.surface with
      | none => (.invalid, managed)
      | some index => placementControl managed core endpoint peerPid index request

/-- What the kernel answers to the calls that the server makes for a message -/
structure PeerAnswers where
  peerAlive : Bool
  bufferSize : Nat
  mapping : Nat
  servicePid : Option Nat
  replySent : Bool

/-- A message as `receive` takes it: forty bytes, or fifty-six, or neither -/
inductive DisplayMessage where
  | old (request : DisplayRequest) (attachment : Nat)
  | control (request : DisplayControl) (hasBuffer : Bool)
  | malformed

/-- `forget_peer` -/
def forgetSurfaces (table : DisplayTable) (endpoint : Nat) : DisplayTable :=
  let forgotten := (List.range boringDisplaySurfaceMax).foldl
    (fun managed slot =>
      if ownedBy table.core endpoint slot = true then
        managedForget managed (table.core.surfaces slot).token
      else managed) table.managed
  let core := peerCleanup table.core endpoint
  if table.managed.managerEndpoint = endpoint then
    { table with
      core := core
      managed := { forgotten with managerEndpoint := 0 }
      inputPending := false
      focusPresentPending := false }
  else
    { table with
      core := core
      managed := forgotten }

/-- `input`, with the answer whether the manager could be sent the event -/
def inputEvent (table : DisplayTable) (sent : Bool) : DisplayTable :=
  let manager := table.managed.managerEndpoint
  if manager = 0 then table
  else if sent = true then { table with inputPending := true }
  else forgetSurfaces { table with inputPending := true } manager

/-- `metadata_empty` -/
def metadataEmpty (request : DisplayRequest) : Bool :=
  decide (request.reserved = 0 ∧ request.width = 0 ∧ request.height = 0 ∧ request.stride = 0 ∧
    request.byteSize = 0 ∧ request.pixelFormat = 0)

/-- `display_managed_damage_region` accepts the rectangle. -/
def damageRegion (table : DisplayTable) (token x y : Nat) : Bool :=
  match surfaceIndex table.core token with
  | none => false
  | some index =>
    let surface := table.core.surfaces index
    let placement := table.managed.placements index
    if surface.width ≤ x ∨ surface.height ≤ y then false
    else if placement.visible = false ∨ placement.surface ≠ token then true
    else decide (placement.border ≤ placement.width / 2 ∧ placement.border ≤ placement.height / 2)

/-- `old_request`, up to its reply.  The fields of a damage request lie over
those of the other requests. -/
def oldRequest (table : DisplayTable) (endpoint : Nat) (request : DisplayRequest)
    (attachment : Nat) (answers : PeerAnswers) : DisplayStatus × DisplayTable :=
  if request.type = boringDisplayRequestCreate ∧ attachment ≠ 0 then
    if answers.bufferSize = 0 then (.invalid, table)
    else
      match validateCreate table.core request answers.bufferSize with
      | .ok =>
        if answers.mapping = 0 then (.noSpace, table)
        else
          let added := surfaceAdd table.core endpoint request attachment answers.mapping
          (added.1, { table with core := added.2.1 })
      | status => (status, table)
  else if attachment ≠ 0 then (.invalid, table)
  else if request.type = boringDisplayRequestCommit ∧ metadataEmpty request = true then
    (surfaceCommit table.core endpoint request.surfaceToken, table)
  else if request.type = boringDisplayRequestDestroy ∧ metadataEmpty request = true then
    match surfaceDestroy table.core endpoint request.surfaceToken with
    | (.ok, core) =>
      (.ok,
        { table with
          core := core
          managed := managedForget table.managed request.surfaceToken })
    | (status, _) => (status, table)
  else if request.type = boringDisplayRequestCommitDamage ∧ request.reserved = 0 ∧
      request.byteSize = 0 ∧ request.stride ≠ 0 ∧ request.pixelFormat ≠ 0 then
    match surfaceCommit table.core endpoint request.surfaceToken with
    | .ok =>
      if damageRegion table request.surfaceToken request.width request.height = true then
        (.ok, table)
      else (.invalid, table)
    | status => (status, table)
  else (.invalid, table)

/-- `control`, with the status of its reply, if there is one -/
def controlMessage (pidOf : Nat → Nat) (table : DisplayTable) (endpoint : Nat)
    (request : DisplayControl) (answers : PeerAnswers) : Option DisplayStatus × DisplayTable :=
  let peer := if answers.peerAlive = true then pidOf endpoint else 0
  if displayControlValidate request ≠ .ok then (some (displayControlValidate request), table)
  else if peer = 0 then (none, forgetSurfaces table endpoint)
  else
    match request.type with
    | .info => (some .ok, table)
    | .manager =>
      if table.managed.managerEndpoint ≠ 0 ∨ table.managerSeen = true ∨
          answers.servicePid ≠ some peer then (some .access, table)
      else
        (some .ok,
          { table with
            managed := { table.managed with managerEndpoint := endpoint }
            managerSeen := true })
    | .inputAck =>
      if endpoint = table.managed.managerEndpoint ∧ table.inputPending = true then
        (none, { table with inputPending := false })
      else (some .access, table)
    | type =>
      let done := managedControl table.managed table.core endpoint peer request
      (some done.1,
        { table with
          managed := done.2
          focusPresentPending :=
            if done.1 = .ok ∧ type = .presentFocus then true
            else if done.1 = .ok ∧ type = .present then false
            else table.focusPresentPending })

/-- `receive`, up to the reply -/
def receiveMessage (pidOf : Nat → Nat) (table : DisplayTable) (endpoint : Nat)
    (answers : PeerAnswers) : DisplayMessage → Option DisplayStatus × DisplayTable
  | .old request attachment =>
    if request.version = boringDisplayProtocolVersion then
      let done := oldRequest table endpoint request attachment answers
      (some done.1, done.2)
    else (some .invalid, table)
  | .control request hasBuffer =>
    if hasBuffer = true then (some .invalid, table)
    else controlMessage pidOf table endpoint request answers
  | .malformed => (some .invalid, table)

/-- A message is received and answered; a peer that does not take the answer
is forgotten. -/
def answerMessage (pidOf : Nat → Nat) (table : DisplayTable) (endpoint : Nat)
    (answers : PeerAnswers) (message : DisplayMessage) : Option DisplayStatus × DisplayTable :=
  match receiveMessage pidOf table endpoint answers message with
  | (none, after) => (none, after)
  | (some status, after) =>
    if answers.replySent = true then (some status, after)
    else (none, forgetSurfaces after endpoint)

end BoringOS.Display

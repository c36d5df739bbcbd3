import Gneiss.Broker.Lookup

/-!
`Gneiss.Broker.Message`: how the broker handles one message. `Fd_Array` is a list; the branches of
the case statement in `Process_Request` are `requestChannel` (`Message` and `Log`), `requestMemory`,
`requestRom` and `requestTimer`.
-/

namespace Gneiss

open Descriptors

variable {sxml : Sxml} {size : Nat}

def image : KindType → Text
  | .message => ascii "Message"
  | .log => ascii "Log"
  | .memory => ascii "Memory"
  | .rom => ascii "Rom"
  | .timer => ascii "Timer"

def setupService (world : World sxml size) (index : Fin size) (kind : KindType)
    (outcome : Outcome) : World sxml size × Bool :=
  let entry := (world.state.components index).serv kind
  if valid entry.broker && valid entry.disp then (world, true)
  else
    let (table, broker, disp) := world.table.allocatePair outcome.service
    let world := { world with table := table }
    if !valid broker || !valid disp then
      (((world.close broker).close disp).setServ index kind ⟨-1, -1⟩, false)
    else
      let world := { world with table := world.table.watch broker outcome.serviceAdd }
      if outcome.serviceAdd then (world.setServ index kind ⟨broker, disp⟩, true)
      else (((world.close broker).close disp).setServ index kind ⟨-1, -1⟩, false)

def processMessageRequest (world : World sxml size) (outcome : Outcome) :
    World sxml size × List Int × Bool :=
  let (table, fd1, fd2) := world.table.allocatePair outcome.session
  let world := { world with table := table }
  if valid fd1 && valid fd2 then (world, [fd1, fd2, -1, -1], true)
  else ((world.close fd1).close fd2, [-1, -1, -1, -1], false)

def processMemoryRequest (world : World sxml size) (fdsIn : List Int) (outcome : Outcome) :
    World sxml size × List Int × Bool :=
  let memory := fdsIn.headD (-1)
  if !valid memory then (world, [-1, -1, -1, -1], false)
  else
    let (world, sealed) := world.memfdSeal memory outcome
    if !sealed then (world.close memory, [-1, -1, -1, -1], false)
    else
      let (table, fd1, fd2) := world.table.allocatePair outcome.session
      let world := { world with table := table }
      if valid fd1 && valid fd2 then (world, [fd1, fd2, memory, -1], true)
      else (((world.close fd1).close fd2).close memory, [-1, -1, -1, -1], false)

def processRomRequest (world : World sxml size) (service : sxml.State) (outcome : Outcome) :
    World sxml size × List Int × Bool :=
  let (location, found) := findResourceLocation world.state service
  if found then
    let (table, fd) := world.table.allocate outcome.file
    let world := { world with table := table, files := world.files ++ [location] }
    (world, [fd, -1, -1, -1], valid fd)
  else (world, [-1, -1, -1, -1], false)

def processTimerRequest (world : World sxml size) (outcome : Outcome) :
    World sxml size × List Int × Bool :=
  let (table, fd) := world.table.allocate outcome.timer
  ({ world with table := table }, [fd, -1, -1, -1], valid fd)

/-- The end of both branches that forward a request: the first `count` descriptors go along. -/
def forwardRequest (world : World sxml size) (source index : Fin size) (kind : KindType)
    (sourceName label : Text) (fdsOut : List Int) (count : Nat) (outcome : Outcome) :
    World sxml size :=
  let (world, ready) := setupService world index kind outcome
  if !ready then
    (world.closeAll fdsOut).sendReject (world.state.components source).fd kind label
  else
    world.sendRequest ((world.state.components index).serv kind).broker kind sourceName label
      (fdsOut.take count)

def requestChannel (world : World sxml size) (source : Fin size) (kind : KindType)
    (sourceName label : Text) (destination : Destination size) (outcome : Outcome) :
    World sxml size :=
  let sourceFd := (world.state.components source).fd
  match destination with
  | .broker => world.sendReject sourceFd kind label
  | .component index =>
      let (world, fdsOut, made) := processMessageRequest world outcome
      if !made then world.sendReject sourceFd kind label
      else forwardRequest world source index kind sourceName label fdsOut 2 outcome

def requestRom (world : World sxml size) (source : Fin size) (label : Text)
    (service : sxml.State) (destination : Destination size) (outcome : Outcome) :
    World sxml size :=
  let sourceFd := (world.state.components source).fd
  match destination with
  | .component _ => world
  | .broker =>
      let (world, fdsOut, made) := processRomRequest world service outcome
      if made then world.sendConfirm sourceFd .rom label (fdsOut.take 1)
      else world.sendReject sourceFd .rom label

def requestMemory (world : World sxml size) (source : Fin size) (sourceName label : Text)
    (fds : List Int) (destination : Destination size) (outcome : Outcome) : World sxml size :=
  let sourceFd := (world.state.components source).fd
  match destination with
  | .broker => world.sendReject sourceFd .memory label
  | .component index =>
      if fds.length < 1 then world.sendReject sourceFd .memory label
      else
        let (world, fdsOut, made) := processMemoryRequest world fds outcome
        if !made then world.sendReject sourceFd .memory label
        else forwardRequest world source index .memory sourceName label fdsOut 3 outcome

def requestTimer (world : World sxml size) (source : Fin size) (label : Text)
    (outcome : Outcome) : World sxml size :=
  let sourceFd := (world.state.components source).fd
  let (world, fdsOut, made) := processTimerRequest world outcome
  if made then world.sendConfirm sourceFd .timer label (fdsOut.take 1)
  else world.sendReject sourceFd .timer label

def processRequest (world : World sxml size) (source : Fin size) (kind : KindType)
    (label : Text) (fds : List Int) (outcome : Outcome) : World sxml size :=
  let component := world.state.components source
  if component.fd < 0 then world
  else
    let service := matchService world.state.xml component.node (image kind) label
    if service = sxml.invalidState ∨ sxml.isOpen service world.state.xml = false then
      world.sendReject component.fd kind label
    else
      match lookupRequest world.state service with
      | none => world.sendReject component.fd kind label
      | some destination =>
          match sxml.getAttribute component.node world.state.xml (ascii "name") 255 with
          | (.ok, sourceName) =>
              match kind with
              | .message =>
                  requestChannel world source .message sourceName label destination outcome
              | .log => requestChannel world source .log sourceName label destination outcome
              | .rom => requestRom world source label service destination outcome
              | .memory => requestMemory world source sourceName label fds destination outcome
              | .timer => requestTimer world source label outcome
          | _ => world.sendReject component.fd kind label

def processConfirm (world : World sxml size) (kind : KindType) (name label : Text)
    (fds : List Int) : World sxml size :=
  match findComponentByName world.state name with
  | none => world
  | some index =>
      let destinationFd := (world.state.components index).fd
      match kind with
      | .message | .log | .memory =>
          if 0 < fds.length ∧ 0 ≤ fds.headD (-1) then
            world.sendConfirm destinationFd kind label (fds.take 1)
          else world.sendReject destinationFd kind label
      | .rom | .timer => world

def processReject (world : World sxml size) (kind : KindType) (name label : Text) :
    World sxml size :=
  match findComponentByName world.state name with
  | none => world
  | some index => world.sendReject (world.state.components index).fd kind label

/-- The confirmation hands the source the other end of its `Broker` socket, which `peers` notes. -/
def processRegister (world : World sxml size) (source : Fin size) (kind : KindType)
    (outcome : Outcome) : World sxml size :=
  let (world, ready) := setupService world source kind outcome
  let entry := (world.state.components source).serv kind
  let sourceFd := (world.state.components source).fd
  if ready then
    let world := { world with peers := world.peers ++ [(entry.broker, source)] }
    world.sendConfirm sourceFd kind [] [entry.disp]
  else world.sendReject sourceFd kind []

def handleMessage (world : World sxml size) (source : Fin size) (action : ActionType)
    (kind : KindType) (name label : Text) (fds : List Int) (outcome : Outcome) :
    World sxml size :=
  match action with
  | .request =>
      if 256 ≤ label.length then world
      else processRequest world source kind label fds outcome
  | .confirm =>
      if 256 ≤ name.length + label.length then world
      else processConfirm world kind name label fds
  | .reject =>
      if 256 ≤ name.length + label.length then world
      else processReject world kind name label
  | .register => processRegister world source kind outcome

/-- What `recvmsg` delivers: a datagram with descriptors for the four slots of `Fds`, or nothing if
it fails; `stale` is the content of the receive buffer. -/
structure Delivery where
  datagram : Option Text
  stale : Packet.Buffer
  offered : Fin 4 → Int

def Delivery.fds (delivery : Delivery) : List Int :=
  if delivery.datagram.isSome then List.ofFn delivery.offered else List.replicate 4 (-1)

def readMessage (generated : GeneratedPacket) (world : World sxml size) (index : Fin size)
    (delivery : Delivery) (outcome : Outcome) : World sxml size :=
  let (table, fds) := world.table.receive delivery.fds
  let world := { world with table := table }
  match Packet.receive generated delivery.datagram delivery.stale with
  | .invalid => world.closeAll fds
  | .valid action kind name label =>
      let world := { world with
        handled := world.handled ++ [⟨index, action, kind, name.text, label.text, fds⟩] }
      handleMessage world index action kind name.text label.text fds outcome

end Gneiss

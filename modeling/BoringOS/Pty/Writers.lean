import BoringOS.Pty.PtyStreams
import BoringOS.Pty.Readers

namespace BoringOS.Pty

open Library

/-!
# The writers of a terminal

The branch of `syscall_fd_write` for a pseudo terminal, and the loops in which
the programs of a terminal call it: `shell_write` of `boring-shell`,
`boringfetch_write`, `cat_write_all` and `write_master` of `boring-terminal`.
A descriptor stands for the handle in its slot, and the buffer of a call can be
read.

A session is one pseudo terminal with the programs that write to it.  The log
records, call by call, which bytes of which writer the ring has taken.
-/

def boringSyscallConsoleIoMax : Nat := 64

/-- What `syscall_fd_write` returns -/
inductive FdWriteResult where
  | bytes (count : Nat)
  | einval
  | epipe
  | ebusy
deriving DecidableEq, Repr

/-- The branch of `syscall_fd_write` for a pseudo terminal, with the number of
bytes that the ring has taken -/
def syscallFdWritePty (trace : PtyTrace) (handle : PtyHandle) (bytes : List UInt8) :
    FdWriteResult × Nat × PtyTrace :=
  if boringSyscallFdIoMax < bytes.length then (.einval, 0, trace)
  else if bytes.length = 0 then (.bytes 0, 0, trace)
  else
    let written := ptyWrite trace.pairs handle bytes
    (match written.1 with
      | .hup => .epipe
      | .wouldBlock => .ebusy
      | .ok => .bytes written.2.1
      | _ => .einval,
      written.2.1, trace.step (.write handle bytes))

/-- A loop that writes what is left of a buffer -/
structure WriteLoop where
  /-- The bytes of the next call -/
  chunk : List UInt8 → List UInt8
  /-- What is left after a call, unless the loop gives up -/
  next : List UInt8 → FdWriteResult → Option (List UInt8)
  /-- How much room in the ring the next call needs -/
  needs : List UInt8 → Nat

/-- A loop that gives up unless its whole chunk is taken -/
def exactLoop (chunkMax : Nat) : WriteLoop where
  chunk left := left.take chunkMax
  next left result :=
    if result = .bytes (min left.length chunkMax) then some (left.drop chunkMax) else none
  needs left := min left.length chunkMax

/-- A loop that goes on behind the bytes that were taken -/
def partialLoop : WriteLoop where
  chunk left := left
  next left result :=
    match result with
    | .bytes count => if count = 0 ∨ left.length < count then none else some (left.drop count)
    | _ => none
  needs _ := 1

/-- `shell_write` -/
def shellWrite : WriteLoop := exactLoop boringSyscallConsoleIoMax

/-- `boringfetch_write` -/
def boringfetchWrite : WriteLoop := exactLoop boringSyscallFdIoMax

/-- `cat_write_all` -/
def catWriteAll : WriteLoop := partialLoop

/-- `write_master` -/
def writeMaster : WriteLoop := partialLoop

/-- The programs of a terminal -/
inductive WriterProgram where
  | boringTerminal
  | boringShell
  | boringfetch
  | cat
deriving DecidableEq, Repr

def WriterProgram.loop : WriterProgram → WriteLoop
  | .boringTerminal => writeMaster
  | .boringShell => shellWrite
  | .boringfetch => boringfetchWrite
  | .cat => catWriteAll

/-- The end of the pair through which a program writes -/
def WriterProgram.endpoint : WriterProgram → PtyEndpoint
  | .boringTerminal => .master
  | _ => .slave

structure Writer where
  program : WriterProgram
  /-- What the loop that is running has not yet written -/
  left : List UInt8
  failed : Bool
  /-- All bytes that the program has set out to send -/
  setOut : List UInt8

structure Session where
  trace : PtyTrace
  slot : Nat
  generation : Nat
  writers : Nat → Writer
  /-- The bytes that the ring has taken, with their writers -/
  log : List (Nat × List UInt8)

variable (s : Session) (endpoint : PtyEndpoint)

def Session.handle : PtyHandle := ⟨s.slot, endpoint, s.generation⟩

/-- A new pair after any calls of the interface, with programs that have not written -/
def openSession (calls : List PtyCall) (programs : Nat → WriterProgram) : Option Session :=
  let trace := run PtyTrace.step ptyTraceInitial calls
  match (ptyCreatePair trace.pairs).1 with
  | .error _ => none
  | .ok (master, _) =>
    some
      { trace := trace.step .createPair
        slot := master.slot
        generation := master.generation
        writers := fun writer => ⟨programs writer, [], false, []⟩
        log := [] }

inductive SessionEvent where
  /-- A program starts to write a buffer. -/
  | begin (writer : Nat) (bytes : List UInt8)
  /-- The loop of a program makes its next call. -/
  | write (writer : Nat)
  /-- Any other call of the interface, in particular a read -/
  | call (call : PtyCall)

def Session.beginWrite (index : Nat) (bytes : List UInt8) : Session :=
  let writer := s.writers index
  if writer.failed = true ∨ writer.left ≠ [] then s
  else
    { s with
      writers := Function.update s.writers index
        { writer with
          left := bytes
          setOut := writer.setOut ++ bytes } }

def Session.write (index : Nat) : Session :=
  let writer := s.writers index
  if writer.failed = true ∨ writer.left = [] then s
  else
    let chunk := writer.program.loop.chunk writer.left
    let result := syscallFdWritePty s.trace (s.handle writer.program.endpoint) chunk
    { s with
      trace := result.2.2
      writers := Function.update s.writers index
        (match writer.program.loop.next writer.left result.1 with
          | some left => { writer with left := left }
          | none => { writer with failed := true })
      log := s.log ++ [(index, chunk.take result.2.1)] }

def Session.step : SessionEvent → Session
  | .begin index bytes => s.beginWrite index bytes
  | .write index => s.write index
  | .call call => { s with trace := s.trace.step call }

/-- The bytes of the log whose writer is one of these -/
def loggedFor (log : List (Nat × List UInt8)) (chosen : Nat → Bool) : List UInt8 :=
  ((log.filter fun entry => chosen entry.1).map Prod.snd).flatten

/-- The bytes that the ring has taken from a writer -/
def Session.sentBy (index : Nat) : List UInt8 := loggedFor s.log fun other => other == index

/-- The bytes that the ring has taken for an endpoint -/
def Session.sentTowards : List UInt8 :=
  loggedFor s.log fun index => (s.writers index).program.endpoint == peerEndpoint endpoint

/-- The bytes that reads have returned at an endpoint -/
def Session.delivered : List UInt8 := s.trace.streams.left (s.trace.direction s.slot endpoint)

/-- The bytes that wait for an endpoint -/
def Session.waiting : List UInt8 := s.trace.waiting s.slot endpoint

/-- No writer has given up, and every byte that one set out to send is either
left to it, or has been taken once, in order, and delivered in that order. -/
structure Served (s : Session) : Prop where
  goesOn : ∀ index, (s.writers index).failed = false
  taken : ∀ index, (s.writers index).setOut = s.sentBy index ++ (s.writers index).left
  inOrder : ∀ endpoint, s.delivered endpoint ++ s.waiting endpoint = s.sentTowards endpoint

/-- Both ends are open. -/
def Session.Open : Prop :=
  ∀ endpoint, (pairFromHandle s.trace.pairs (s.handle endpoint)).isSome = true

/-- Both ends stay open, only the writers write to the pair, and a buffer that is
passed to the system call in one piece is not too long for it. -/
def StaysOpen (event : SessionEvent) : Prop :=
  (s.step event).Open ∧
    match event with
    | .begin index bytes =>
      ((s.writers index).program.loop.chunk bytes).length ≤ boringSyscallFdIoMax
    | .write _ => True
    | .call (.write handle _) => handle.slot ≠ s.slot
    | .call _ => True

/-- A write meets a ring that has the room that its loop needs. -/
def FindsRoom : SessionEvent → Prop
  | .write index =>
    (s.writers index).left ≠ [] →
    (s.writers index).program.loop.needs (s.writers index).left +
      (s.waiting (peerEndpoint (s.writers index).program.endpoint)).length ≤ kernelPtyRingCapacity
  | _ => True

end BoringOS.Pty

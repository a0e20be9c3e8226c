import SyscallBridge.Process.Call

/-!
# Runs of the process

A run is a list of turns, each a call that begins or an answer that has come. Answers may come in
any order and say anything; nothing here asks what a host would answer.
-/

namespace SyscallBridge

/-- A call begins, or one that waits goes on with its answer. -/
inductive ProcessEvent where
  | call (c : Syscall)
  | answer (q : ProcessPending) (a : Except HostFailure q.request.Answer)

namespace Process

def turn (p : Process) : ProcessEvent → Step
  | .call c => p.start c
  | .answer q a => p.resume q a

def next (p : Process) (e : ProcessEvent) : Process := (p.turn e).state

def run (p : Process) (events : List ProcessEvent) : Process := events.foldl next p

theorem run_cons (p : Process) (e : ProcessEvent) (events : List ProcessEvent) :
    p.run (e :: events) = (p.next e).run events := rfl

/-- The files that everything starts with. -/
theorem create_eq (s : Settings) : ∃ blank : Process,
    blank.store = {} ∧ blank.table = {} ∧ blank.tree.temps = {} ∧
    create s = (((blank.allocate .unsupported).2.allocate (console s s.stdoutLevel)).2.allocate
      (console s s.stderrLevel)).2 := by
  refine ⟨{
    settings := s
    tree := .create s.knownDirs (s.randomSeed.getD defaultSeed)
    environment := .create s.tmpDir s.toleratedKeys }, rfl, rfl, rfl, rfl⟩

end Process

end SyscallBridge

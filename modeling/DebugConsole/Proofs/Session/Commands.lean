import DebugConsole.Proofs.Session.Exchanges
import DebugConsole.Proofs.Session.Operations

/-!
# Commands go in order

A command of the editor is at most one interrupt and then at most one line. `Command.Goes`
says how it goes: a running program is interrupted first where the command is not a plain
one, then the line is typed, and the first of these that fails ends the command with
nothing changed, but for the file that is shown once a breakpoint's line has been typed.
A session remembers just the last line that its terminal took
(`Session.commands_fail_cleanly`).
-/

namespace DebugConsole

/-- The line of an exchange that the terminal took. -/
def Exchange.taken? : Exchange → Option String
  | .typed line (.ok ()) => some line
  | .typed _ (.error _) | .asked _ _ | .interrupted _ => none

/-- The last line that the terminal took. -/
def lastTaken? (exchanges : List Exchange) : Option String :=
  (exchanges.filterMap Exchange.taken?).getLast?

theorem lastTaken?_append (exchanges later : List Exchange) :
    lastTaken? (exchanges ++ later) = (lastTaken? later).or (lastTaken? exchanges) := by
  simp [lastTaken?]

/-- What an editor has typed through a session. -/
inductive Command where
  | send (name : String) (arguments : List String)
  | toggle (file : Path) (line : Nat)
  | clearAll
  deriving DecidableEq

namespace Command

open Session

variable {World : Type} (surroundings : Surroundings World) (session : Session)

def operation : Command → Operation
  | .send name arguments => .send name arguments
  | .toggle file line => .toggle file line
  | .clearAll => .clearAll

/-- Has a command typed: whether that went well, and the session afterwards. -/
def act : Command → StateM World (Except Error Unit × Session)
  | .send name arguments => session.send surroundings name arguments
  | .toggle file line => session.toggle surroundings file line
  | .clearAll => session.clearAll surroundings

/-- Whether the program is interrupted first. -/
def interrupts : Command → Bool
  | .send _ _ => false
  | .toggle _ _ | .clearAll => session.state == .running

/-- The line to be typed. Only commands by name may lack arguments. -/
def line? : Command → Except Error String
  | .send name arguments => (session.debugger.format name arguments).mapError .missingArgument
  | .toggle file line => .ok (session.toggleLine file line)
  | .clearAll => (session.debugger.format "delete_breakpoints" []).mapError .missingArgument

/-- The file that is shown once the line is typed. -/
def shown : Command → Option Path
  | .toggle file _ => some file
  | .send _ _ | .clearAll => session.watched

/-- What passes in front of the line. -/
def ahead (command : Command) : List Exchange :=
  if command.interrupts session then [.interrupted (.ok ())] else []

/-- How a command goes: what passes between the session and its surroundings, whether the
command went well, and the session afterwards. -/
inductive Goes (command : Command) : List Exchange → Except Error Unit → Session → Prop where
  | uninterrupted {error : Error} (running : command.interrupts session = true) :
      Goes command [.interrupted (.error error)] (.error error) session
  | unspelled {error : Error} (missing : command.line? session = .error error) :
      Goes command (command.ahead session) (.error error) session
  | refused {line : String} {error : Error} (spelled : command.line? session = .ok line) :
      Goes command (command.ahead session ++ [.typed line (.error error)]) (.error error)
        { session with watched := command.shown session }
  | taken {line : String} (spelled : command.line? session = .ok line) :
      Goes command (command.ahead session ++ [.typed line (.ok ())]) (.ok ())
        { session with watched := command.shown session, lastCommand := some line }

/-- Interrupts the program if it is to be interrupted first. -/
def interruptFirst (command : Command) : StateM World (Except Error Unit) :=
  if command.interrupts session then surroundings.interrupt else return .ok ()

/-- Types the line of a command. -/
def type (command : Command) : StateM World (Except Error Unit × Session) :=
  match command.line? session with
  | .error error => return (.error error, session)
  | .ok line => sendLine surroundings { session with watched := command.shown session } line

theorem send_eq (name : String) (arguments : List String) :
    session.send surroundings name arguments = (send name arguments).type surroundings session := by
  simp only [Session.send, type, line?, shown]
  cases session.debugger.format name arguments <;> rfl

/-- Every command is an interrupt, where there is to be one, and a line behind it. -/
theorem act_eq (command : Command) :
    command.act surroundings session = (do
      match ← command.interruptFirst surroundings session with
      | .error error => return (.error error, session)
      | .ok () => command.type surroundings session) := by
  cases command with
  | send name arguments => exact send_eq surroundings session name arguments
  | toggle file line =>
    simp only [act, Session.toggle, interruptIfRunning, interruptFirst, interrupts, beq_iff_eq]
    rfl
  | clearAll =>
    simp only [act, Session.clearAll, interruptIfRunning, interruptFirst, interrupts, beq_iff_eq,
      send_eq]
    rfl

/-- Typing the line of a command goes as it should behind the interrupt. -/
theorem type_goes (command : Command) :
    Logs (command.type surroundings session) (command.type surroundings.logged session)
      fun result exchanges =>
        command.Goes session (command.ahead session ++ exchanges) result.1 result.2 := by
  unfold type
  cases spelled : command.line? session with
  | error error => exact .pure (by rw [List.append_nil]; exact .unspelled spelled)
  | ok line =>
    have sent : Logs (surroundings.sendLine line) (surroundings.logged.sendLine line)
        fun outcome exchanges => exchanges = [.typed line outcome] := .call fun _ => rfl
    refine sent.bind ?_
    rintro outcome exchanges rfl
    cases outcome with
    | error error => exact .pure (.refused spelled)
    | ok _ => exact .pure (.taken spelled)

/-- Every command goes as it should. -/
theorem act_goes (command : Command) :
    Logs (command.act surroundings session) (command.act surroundings.logged session)
      fun result exchanges => command.Goes session exchanges result.1 result.2 := by
  have typed := command.type_goes surroundings session
  simp only [act_eq, interruptFirst]
  cases running : command.interrupts session with
  | false =>
    have nothing : command.ahead session = [] := by simp [ahead, running]
    rw [nothing] at typed
    exact typed
  | true =>
    have once : command.ahead session = [.interrupted (.ok ())] := by simp [ahead, running]
    rw [once] at typed
    have interrupted : Logs surroundings.interrupt surroundings.logged.interrupt
        fun outcome exchanges => exchanges = [.interrupted outcome] := .call fun _ => rfl
    refine interrupted.bind ?_
    rintro outcome exchanges rfl
    cases outcome with
    | error error => exact .pure (.uninterrupted running)
    | ok _ => exact typed

theorem perform_operation (command : Command) (world : World) :
    session.perform surroundings command.operation world =
      (([], (command.act surroundings session world).1.2),
        (command.act surroundings session world).2) := by
  cases command <;> rfl

namespace Goes

variable {session : Session} {command : Command} {exchanges : List Exchange}
  {outcome : Except Error Unit} {after : Session}

/-- A command makes no request. -/
theorem asks_nothing (goes : command.Goes session exchanges outcome after)
    (line : String) (answer : Answer) : .asked line answer ∉ exchanges := by
  have nothing : .asked line answer ∉ command.ahead session := by
    unfold ahead
    split <;> simp
  cases goes <;> simp [nothing]

/-- A command that fails changes the session by no more than the file that is shown. -/
theorem unchanged {error : Error} (goes : command.Goes session exchanges (.error error) after) :
    after = { session with watched := after.watched } := by
  cases goes <;> rfl

/-- No command that fails changes the file that is shown, but for a toggle whose line the
terminal refused. -/
theorem watched_eq {error : Error} (goes : command.Goes session exchanges (.error error) after) :
    after.watched = session.watched ∨ ∃ file number line, command = .toggle file number ∧
      exchanges.getLast? = some (.typed line (.error error)) := by
  cases goes with
  | uninterrupted _ | unspelled _ => exact .inl rfl
  | @refused line _ spelled =>
    cases command with
    | send name arguments | clearAll => exact .inl rfl
    | toggle file number => exact .inr ⟨file, number, line, rfl, by simp⟩

theorem lastCommand_eq (goes : command.Goes session exchanges outcome after) :
    after.lastCommand = (lastTaken? exchanges).or session.lastCommand := by
  have nothing : lastTaken? (command.ahead session) = none := by
    unfold ahead
    split <;> rfl
  cases goes with
  | uninterrupted _ => rfl
  | unspelled _ => rw [nothing, Option.none_or]
  | refused _ => rw [lastTaken?_append, nothing]; rfl
  | taken _ => rw [lastTaken?_append]; rfl

end Goes

end Command

/-! ## The last line taken -/

namespace Session

variable {World : Type} (surroundings : Surroundings World) (session : Session)

/-- What comes of an action on a session remembers the last line taken in its course. -/
def Remembers {Told : Type} (session : Session) (result : Told × Session)
    (exchanges : List Exchange) : Prop :=
  result.2.lastCommand = (lastTaken? exchanges).or session.lastCommand

variable {session} in
/-- What happens behind an action is remembered in place of what happened in its course. -/
theorem Remembers.append {Told Further : Type} {result : Told × Session} {last : Further × Session}
    {exchanges further : List Exchange} (first : session.Remembers result exchanges)
    (second : result.2.Remembers last further) : session.Remembers last (exchanges ++ further) := by
  rw [Remembers, lastTaken?_append, Option.or_assoc, ← first]
  exact second

/-- No line is taken in the course of a request. -/
theorem request_takes_nothing (line : String) :
    Logs (surroundings.request line) (surroundings.logged.request line)
      fun _ exchanges => lastTaken? exchanges = none :=
  .call fun _ => rfl

theorem refresh_remembers :
    Logs (session.refresh surroundings) (session.refresh surroundings.logged)
      session.Remembers := by
  unfold refresh
  cases session.watched with
  | none => exact .pure rfl
  | some file =>
    have queried : Logs (session.store.query surroundings.request file)
        (session.store.query surroundings.logged.request file)
        fun _ exchanges => lastTaken? exchanges = none :=
      (request_takes_nothing surroundings _).bind fun _ _ nothing =>
        .pure (by rwa [List.append_nil])
    exact queried.bind fun _ _ nothing =>
      .pure (by rw [Remembers, List.append_nil, nothing, Option.none_or])

theorem react_remembers (event : Event) :
    Logs (session.react surroundings event) (session.react surroundings.logged event)
      session.Remembers := by
  cases event with
  | readyForQuery => exact session.refresh_remembers surroundings
  | jumpTo _ | resumedRunning | terminated | stalled _ => exact .pure rfl

theorem reactAll_remembers (events : List Event) :
    Logs (session.reactAll surroundings events) (session.reactAll surroundings.logged events)
      session.Remembers := by
  induction events generalizing session with
  | nil => exact .pure rfl
  | cons event later inductionHypothesis =>
    refine (session.react_remembers surroundings event).bind fun (_, middle) _ first => ?_
    refine (inductionHypothesis middle).bind fun _ _ second => .pure ?_
    rw [List.append_nil]
    exact first.append second

/-- The last line that the terminal takes in the course of an operation is remembered. -/
theorem perform_remembers (operation : Operation) :
    Logs (session.perform surroundings operation) (session.perform surroundings.logged operation)
      session.Remembers := by
  have commanded (command : Command) :
      Logs (do return (([] : List Note), (← command.act surroundings session).2))
        (do return ([], (← command.act surroundings.logged session).2)) session.Remembers :=
    (command.act_goes surroundings session).bind fun _ _ goes =>
      .pure (by rw [List.append_nil]; exact goes.lastCommand_eq)
  cases operation with
  | feed chunk =>
    exact reactAll_remembers surroundings
      { session with listener := (session.listener.feed chunk).2 } (session.listener.feed chunk).1
  | watch file => exact refresh_remembers surroundings { session with watched := some file }
  | refresh => exact session.refresh_remembers surroundings
  | send name arguments => exact commanded (.send name arguments)
  | toggle file line => exact commanded (.toggle file line)
  | clearAll => exact commanded .clearAll
  | interrupt =>
    have interrupted : Logs surroundings.interrupt surroundings.logged.interrupt
        fun _ exchanges => lastTaken? exchanges = none := .call fun _ => rfl
    exact interrupted.bind fun _ _ nothing =>
      .pure (by rw [Remembers, List.append_nil, nothing, Option.none_or])
  | custom command =>
    have asked : Logs (custom surroundings command) (custom surroundings.logged command)
        fun _ exchanges => lastTaken? exchanges = none :=
      (request_takes_nothing surroundings _).bind fun _ _ nothing =>
        .pure (by rwa [List.append_nil])
    exact asked.bind fun _ _ nothing =>
      .pure (by rw [Remembers, List.append_nil, nothing, Option.none_or])
  | finish => exact .pure rfl

/-- Whatever is done with a session, it remembers the last line taken since. -/
theorem performAll_remembers (operations : List Operation) :
    Logs (session.performAll surroundings operations)
      (session.performAll surroundings.logged operations) session.Remembers := by
  induction operations generalizing session with
  | nil => exact .pure rfl
  | cons operation later inductionHypothesis =>
    refine (session.perform_remembers surroundings operation).bind fun (_, middle) _ first => ?_
    refine (inductionHypothesis middle).bind fun _ _ second => .pure ?_
    rw [List.append_nil]
    exact first.append second

/-- Commands go in order and fail cleanly, whatever the session and whichever calls of its
surroundings fail. What passes is as `Command.Goes` says: one interrupt in front of a toggle
and of clearing if the program is running, and none otherwise; then the line, unless the
interrupt failed or an argument is missing; and no request. The editor is told nothing. A
command that fails leaves everything in the session as it was, but for the file that is
shown, which changes only if the line of a toggle was refused. Over any run of operations,
the command remembered is the last line that the terminal took. -/
theorem commands_fail_cleanly :
    (∀ (command : Command) (session : Session) (log : List Exchange) (world : World),
      let run := command.act surroundings.logged session (log, world)
      let outcome := run.1.1
      let after := run.1.2
      command.act surroundings session world = (run.1, run.2.2) ∧
      session.perform surroundings command.operation world = (([], after), run.2.2) ∧
      ∃ exchanges, run.2.1 = log ++ exchanges ∧ command.Goes session exchanges outcome after ∧
        (∀ line answer, .asked line answer ∉ exchanges) ∧
        ∀ error, outcome = .error error →
          after = { session with watched := after.watched } ∧
          (after.watched = session.watched ∨ ∃ file number line,
            command = .toggle file number ∧
            exchanges.getLast? = some (.typed line (.error error)))) ∧
    ∀ (debugger : Debugger) (options : Debugger.Options) (operations : List Operation)
      (world : World),
      let run := (start debugger options).performAll surroundings.logged operations ([], world)
      (start debugger options).performAll surroundings operations world = (run.1, run.2.2) ∧
      run.1.2.lastCommand = lastTaken? run.2.1 := by
  refine ⟨fun command session log world => ?_, fun debugger options operations world => ?_⟩
  · obtain ⟨⟨outcome, after⟩, exchanges, world', acted, actedLogged, goes⟩ :=
      command.act_goes surroundings session log world
    dsimp only at goes
    rw [command.perform_operation, acted, actedLogged]
    refine ⟨rfl, rfl, exchanges, rfl, goes, goes.asks_nothing, fun error failed => ?_⟩
    dsimp only at failed
    subst failed
    exact ⟨goes.unchanged, goes.watched_eq⟩
  · obtain ⟨result, exchanges, world', ran, ranLogged, remembers⟩ :=
      (start debugger options).performAll_remembers surroundings operations [] world
    rw [ran, ranLogged]
    refine ⟨rfl, ?_⟩
    rw [List.nil_append]
    exact remembers.trans Option.or_none

end Session

end DebugConsole

import NavState.Session.Act

namespace NavState.Session

/-!
# Commands on hosts

Browsing hosts move through their histories, directed hosts show what they are
told to.
-/

/-- The reply to a move that may lead past an end, and the history after it. -/
def reveal (history : History) (reached? : Option History) : Reply × History :=
  match reached? with
  | some reached => (.number reached.current, reached)
  | none => (.nothing, history)

namespace HostCommand

/-- What a browsing host does on a command. -/
def browse
    (command : HostCommand)
    (history : History) :
    Except Fault (Reply × History) :=
  match command with
  | .direct _ => .error .inapplicable
  | .push =>
      let pushed := history.push
      .ok (.number pushed.current, pushed)
  | .replace =>
      let replaced := history.replace
      .ok (.number replaced.current, replaced)
  | .back => .ok (reveal history history.back?)
  | .forward => .ok (reveal history history.forward?)
  | .go delta => .ok (reveal history (history.go? delta))
  | .size => .ok (.number history.size, history)
  | .isEmpty => .ok (.flag false, history)
  | .describe => .ok (.text history.describe, history)
  | .shown => .ok (.number history.current, history)

/-- What a host does on a command. -/
def perform
    (command : HostCommand)
    (host : Host) :
    Except Fault (Reply × Host) :=
  match host with
  | .browsing history =>
      (command.browse history).map fun (reply, history) =>
        (reply, .browsing history)
  | .directed page =>
      match command with
      | .direct next => .ok (.nothing, .directed next)
      | .shown => .ok (.page page, .directed page)
      | _ => .error .inapplicable

end HostCommand

/-- Perform a command on a host. -/
def performHost (index : Nat) (command : HostCommand) : Act Reply := do
  let host ← Act.require .inapplicable (← get).hosts[index]?
  let (reply, host) ← Act.ofExcept (command.perform host)
  modify fun world => { world with hosts := world.hosts.set index host }
  return reply

end NavState.Session

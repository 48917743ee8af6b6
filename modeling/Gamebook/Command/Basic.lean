import Gamebook.Command.Arguments

set_option autoImplicit false

namespace Gamebook

structure Serving where
  host : String := "0.0.0.0"
  port : Int := 13013
  reload : Bool := false
  deriving DecidableEq, Repr

inductive Command where
  | play (path : String)
  | check (path : String)
  | serve (serving : Serving)
  deriving DecidableEq, Repr

namespace Command

def given (flags : List Flag) (arguments : List String) : Except Stop Given := do
  let given ← Given.read flags {} (← Token.readAll flags arguments)
  if given.unknown then .error .usage else .ok given

def scriptPath (arguments : List String) : Except Stop String := do
  match (← given [.help] arguments).words with
  | [path] => return Path.normalize path
  | _ => throw .usage

def serving (standard : Serving) (arguments : List String) : Except Stop Serving := do
  let given ← given [.help, .host, .port, .reload] arguments
  if given.separated || !given.words.isEmpty then throw .usage
  let port := (given.values.lookup .port).map fun value => Number.readInt value.toList
  return {
    host := (given.values.lookup .host).getD standard.host
    port := ((port.map Except.toOption).join).getD standard.port
    reload := given.switches.contains .reload }

def named (standard : Serving) (name : String) (arguments : List String) : Except Stop Command :=
  match name with
  | "play" => (scriptPath arguments).map .play
  | "check" => (scriptPath arguments).map .check
  | "serve" => (serving standard arguments).map .serve
  | _ => .error .usage

def readAfter (standard : Serving) (given : Given) : List String → Except Stop Command
  | [] => .error .usage
  | "--" :: _ => .error .usage
  | argument :: rest => do
    match ← Token.read [.help, .verbose] argument with
    | .word name =>
      -- Everything after its name belongs to the command, so it speaks first.
      let command ← named standard name rest
      if given.unknown then .error .usage else .ok command
    | token => readAfter standard (← Given.read [.help, .verbose] given [token]) rest

def read (standard : Serving) (arguments : List String) : Except Stop Command := do
  let _ ← Token.readAll [.help, .verbose] arguments
  readAfter standard {} arguments

end Command

end Gamebook

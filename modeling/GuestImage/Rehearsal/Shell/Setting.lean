/-!
# Settings of a shell

A shell runs under settings, which are switched on and off by a letter or by a name.
-/

namespace GuestImage.Rehearsal.Shell

/-- A setting of a shell. -/
inductive Setting where
  /-- A command that fails ends the shell. -/
  | exitOnFailure
  /-- The signs of patterns stand for themselves. -/
  | noPatterns
  | ignoreEnd
  | interactive
  | watchJobs
  /-- Commands are read and not run. -/
  | onlyRead
  /-- The script comes from the standard input. -/
  | fromInput
  /-- Commands are shown before they are run. -/
  | showCommands
  /-- The script is shown while it is read. -/
  | showScript
  | firstEditor
  | secondEditor
  /-- Files that are there are not written over. -/
  | keepFiles
  /-- Variables that get a value are handed on to programs. -/
  | exportAll
  | notify
  /-- A parameter that is not set must not be used. -/
  | insistOnSet
  /-- The shell keeps the rights of its file. -/
  | keepRights
  | noLog
  | debug
  deriving DecidableEq, Repr

namespace Setting

/-- All settings, in the order they are listed in. -/
def all : List Setting :=
  [.exitOnFailure, .noPatterns, .ignoreEnd, .interactive, .watchJobs, .onlyRead, .fromInput,
    .showCommands, .showScript, .firstEditor, .secondEditor, .keepFiles, .exportAll, .notify,
    .insistOnSet, .keepRights, .noLog, .debug]

/-- The name of a setting. -/
def name : Setting → String
  | .exitOnFailure => "errexit"
  | .noPatterns => "noglob"
  | .ignoreEnd => "ignoreeof"
  | .interactive => "interactive"
  | .watchJobs => "monitor"
  | .onlyRead => "noexec"
  | .fromInput => "stdin"
  | .showCommands => "xtrace"
  | .showScript => "verbose"
  | .firstEditor => "vi"
  | .secondEditor => "emacs"
  | .keepFiles => "noclobber"
  | .exportAll => "allexport"
  | .notify => "notify"
  | .insistOnSet => "nounset"
  | .keepRights => "privileged"
  | .noLog => "nolog"
  | .debug => "debug"

/-- The letter of a setting, if it has one. -/
def letter? : Setting → Option Char
  | .exitOnFailure => some 'e'
  | .noPatterns => some 'f'
  | .ignoreEnd => some 'I'
  | .interactive => some 'i'
  | .watchJobs => some 'm'
  | .onlyRead => some 'n'
  | .fromInput => some 's'
  | .showCommands => some 'x'
  | .showScript => some 'v'
  | .firstEditor => some 'V'
  | .secondEditor => some 'E'
  | .keepFiles => some 'C'
  | .exportAll => some 'a'
  | .notify => some 'b'
  | .insistOnSet => some 'u'
  | .keepRights => some 'p'
  | .noLog | .debug => none

end Setting

/-- The letters of settings that are on, the last of all first. -/
def settingLetters (on : List Setting) : String :=
  String.ofList ((Setting.all.reverse.filter on.contains).filterMap Setting.letter?)

/-- Switches a setting on or off. -/
def switchSetting (s : Setting) (value : Bool) (on : List Setting) : List Setting :=
  let others := on.filter (· ≠ s)
  if value then s :: others else others

end GuestImage.Rehearsal.Shell

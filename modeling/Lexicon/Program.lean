import Lexicon.CommandLine.Help
import Lexicon.CommandLine.Parser
import Lexicon.LogFilter
import Lexicon.Run

/-! The program from its command line to its exit code. -/

namespace Lexicon

structure ProgramReport where
  log : LogFilter
  logFaults : List LogFault
  failure : Option Failure
  disk : Disk
  notices : List Notice
  events : List Event := []
  counts : RunCounts := {}

inductive Outcome where
  | refused (error : UsageError)
  | shown (text : String)
  | ran (report : ProgramReport)

namespace Program

/-- Verbosity goes before the environment, which goes before silence. -/
def logSpec (o : Options) (environment : Option String) : String :=
  if o.verbose then "debug"
  else environment.getD (if o.quiet then "" else "info")

def configNotices (c : Config) : List Notice :=
  [.header "Configuration",
   .info ("Input:            " ++ c.input.quoted),
   .info ("Output dir:       " ++ c.outputDirectory.quoted),
   .info ("Delimiter:        " ++ quotedChar c.delimiter),
   .info ("Ratio threshold:  " ++ c.noise.ratioThreshold.text),
   .info s!"Length threshold: {c.noise.lengthThreshold}",
   .info ("Outputs:          " ++ c.names.terms ++ ", " ++ c.names.vars ++ ", " ++ c.names.consts),
   .info s!"Dry run:          {c.dryRun}"]

/-- A failure and what caused it, a line each. -/
def failureNotices (f : Failure) : List Notice :=
  .error f.message :: (f.cause?.map fun cause => .error ("  Caused by: " ++ cause.message)).toList

def failed (o : Options) (f : Failure) (d : Disk) : RunReport where
  result := .error f
  counts := {}
  disk := d
  notices := if o.quiet then [] else [.banner]

def perform (o : Options) (d : Disk) : RunReport :=
  match o.config with
  | .error f => failed o f d
  | .ok c =>
    let report := run c {} d
    let opening := if c.verbose then .banner :: configNotices c else [.banner]
    { report with notices := c.tell opening ++ report.notices }

def failure? (r : RunReport) : Option Failure :=
  match r.result with
  | .error f => some f
  | .ok _ => none

def report (o : Options) (environment : Option String) (d : Disk) : ProgramReport :=
  let r := perform o d
  let log := LogFilter.ofSpec (logSpec o environment)
  { log := log.1
    logFaults := log.2
    failure := failure? r
    disk := r.disk
    notices := r.notices ++ ((failure? r).map failureNotices).getD []
    events := r.events
    counts := r.counts }

def execute (words : List Bytes) (environment : Option String) (d : Disk) : Outcome :=
  match CommandLine.parse words with
  | .error (.refused e) => .refused e
  | .error (.help detailed) => .shown (Help.text detailed)
  | .error .version => .shown Help.version
  | .ok o => .ran (report o environment d)

end Program

namespace Outcome

def exitCode : Outcome → Nat
  | refused _ => 2
  | shown _ => 0
  | ran r => if r.failure.isSome then 1 else 0

def records : Outcome → Nat
  | ran r => r.counts.tokens.records
  | _ => 0

def disk (before : Disk) : Outcome → Disk
  | ran r => r.disk
  | _ => before

def stdout (color : Bool) (timing : Timing) : Outcome → String
  | refused _ => ""
  | shown text => text
  | ran r => (Notice.print color timing r.notices).1

/-- The log, each line with a given time, and then what went wrong. -/
def stderr (color : Bool) (time : String) : Outcome → String
  | refused e => e.printed ++ "\n"
  | shown _ => ""
  | ran r =>
    String.join (r.logFaults.map fun fault => fault.message ++ "\n") ++ r.log.log time r.events
      ++ (Notice.print color ⟨"", ""⟩ r.notices).2

end Outcome
end Lexicon

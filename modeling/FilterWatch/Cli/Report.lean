import FilterWatch.Checker
import FilterWatch.Cli.Arguments

/-!
# What the command line prints

One line for each domain or resolver, its fields separated by tabs, and an exit code: zero if everything went well,
one if a check failed or a resolver is offline, two if there was nothing to do.
-/

namespace FilterWatch.Cli

/-- Fields with tabs between them. -/
def tabbed (parts : List String) : String := "\t".intercalate parts

def outcomeLine (o : Outcome) : String :=
  match o.error with
  | some e => tabbed [o.domain, "error", e.message]
  | none => tabbed [o.domain, if o.blocked then "blocked" else "clear", o.resolver]

def healthLine (h : Health) : String :=
  match h.error with
  | some e => tabbed [h.resolver, "offline", e.message]
  | none => tabbed [h.resolver, "online", toString h.latencyMillis ++ "ms"]

/-- Lines, and the exit code. -/
structure Report where
  lines : List String
  exitCode : Nat
deriving DecidableEq, Repr

/-- The exit code of a run whose parts all went well, or did not. -/
def exitCodeOf (allWell : Bool) : Nat := if allWell then 0 else 1

/-- The exit code when nothing could be done. -/
def failureCode : Nat := 2

namespace Report

/-- What is printed: every line with a line feed at its end. -/
def text (r : Report) : String := String.join (r.lines.map (· ++ "\n"))

def ofOutcomes (os : List Outcome) : Report := ⟨os.map outcomeLine, exitCodeOf (os.all (·.error.isNone))⟩

def ofHealths (hs : List Health) : Report := ⟨hs.map healthLine, exitCodeOf (hs.all (·.error.isNone))⟩

/-- Nothing could be done. -/
def failure : Report := ⟨[], failureCode⟩

def usage : Report :=
  { lines := ["usage: filterwatch [OPTIONS] check DOMAIN... | status",
      "",
      "  -t, --timeout SECONDS    time limit of a query (5)",
      "  -r, --retries N          attempts at a resolver after the first (2)",
      "  -c, --concurrency N      most checks at once (100)",
      "      --cache-ttl SECONDS  how long outcomes are kept (300)",
      "      --edns-size BYTES    size of answers to announce (1232)",
      "      --tcp                ask over connections",
      "      --resolver ADDRESS[,KEYWORD[,TYPE]]",
      "                           a resolver, repeated in failover order",
      "  -v, --verbose            list the resolvers in use",
      "  -h, --help               this text"]
    exitCode := 0 }

end Report

/-- Carries out a command on a network. -/
def perform (net : Network) (call : Call) (c : Checker) : Command → Report
  | .check domains => match (c.checkMany net call domains).2 with
    | .ok os => .ofOutcomes os
    | .error _ => .failure
  | .status => match (c.health net call).2 with
    | .ok hs => .ofHealths hs
    | .error _ => .failure
  | .help => .usage

/-- Carries out a command line on a network. -/
def run (net : Network) (args : List String) : Report :=
  match parse args with
  | .error _ => .failure
  | .ok i => perform net {} (.build i.options.toConfig none) i.command

end FilterWatch.Cli

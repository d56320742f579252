import ProxyRouting.Environment
import ProxyRouting.Event

/-!
# The log of a run

What is told is handed to a writer, which comes from outside.  Two variables say how it writes:
`RUST_LOG` which events, by directives that the writer reads, and `LOG_FORMAT` in which of two
layouts.  Without directives, or with some that cannot be read, the warnings and errors of the
program itself are written.
-/

namespace ProxyRouting.CommandLine

/-- Which events are written. -/
abbrev LogFilter := Event.Shown → Bool

/-- How directives are read and events are laid out. -/
structure LogWriter where
  /-- The filter of a text of directives, if all of them can be read. -/
  filter? : String → Option LogFilter
  /-- The filter of those directives of a text that can be read. -/
  lenientFilter : String → LogFilter
  /-- The lines for some events. -/
  plain : List Event.Shown → String
  /-- The same as JSON. -/
  json : List Event.Shown → String

namespace LogWriter

def filter (w : LogWriter) (env : Environment) : LogFilter :=
  ((env "RUST_LOG").bind w.filter?).getD (w.lenientFilter "netproxy=warn")

/-- Whether the variable is `json`, in letters of either case. -/
def wantsJson (env : Environment) : Bool :=
  (env "LOG_FORMAT").any fun text => text.toList.map Char.toLower == "json".toList

def layout (w : LogWriter) (env : Environment) : List Event.Shown → String :=
  if wantsJson env then w.json else w.plain

/-- What is written of some events. -/
def text (w : LogWriter) (env : Environment) (events : List Event) : String :=
  w.layout env ((events.map Event.shown).filter (w.filter env))

end LogWriter

end ProxyRouting.CommandLine

import ConferenceBridge.Log.Directive

namespace ConferenceBridge.Log

/-! Which records are written: a list of directives, of which the most specific one about a record
decides. -/

structure Filter where
  directives : List Directive
  deriving DecidableEq, Repr

namespace Filter

def parse? (text : String) : Option Filter :=
  if Text.allBlank text then none
  else
    let parts := (text.toList.splitOn ',').filter fun part => !part.isEmpty
    (parts.mapM Directive.ofChars?).map .mk

/-- The directive that decides about a record, of equal ones the last. -/
def deciding? (filter : Filter) (record : Record) : Option Directive :=
  (filter.directives.filter fun directive => directive.covers record).foldl
    (fun best directive =>
      if best.any fun best : Directive => best.outranks directive then best
      else some directive) none

def admits (filter : Filter) (record : Record) : Bool :=
  (filter.deciding? record).any fun directive => directive.threshold.admits record.severity

end Filter

end ConferenceBridge.Log

import TraceGraph.Number

/-! Where nodes stand. A coordinate keeps the number that was assigned to it, cut off at the limits of
the drawing area. -/

namespace TraceGraph

/-- Coordinates lie between the limit and its negative. -/
def coordinateLimit : Int := 5000

def horizontalDistance : Int := 100

def verticalDistance : Int := 100

/-- Cut off at the limits; NaN, which compares with nothing, stays. -/
def Number.clamp (c : Number) : Number :=
  if c.gtInt coordinateLimit then whole coordinateLimit
  else if c.ltInt (-coordinateLimit) then whole (-coordinateLimit)
  else c

inductive Axis
  | x
  | y
  deriving DecidableEq

structure Position where
  x : Number
  y : Number
  deriving DecidableEq

namespace Position

def of (x y : Number) : Position := ⟨x.clamp, y.clamp⟩

def set (p : Position) (axis : Axis) (c : Number) : Position :=
  match axis with
  | .x => { p with x := c.clamp }
  | .y => { p with y := c.clamp }

/-- Where a new node is placed: to the right by the population of its group, downward by the number of
groups. -/
def seedPoint (population groups : Int) : Int × Int :=
  (horizontalDistance + horizontalDistance * population, verticalDistance * groups)

def seed (population groups : Int) : Position :=
  let p := seedPoint population groups
  of (.whole p.1) (.whole p.2)

end Position

end TraceGraph

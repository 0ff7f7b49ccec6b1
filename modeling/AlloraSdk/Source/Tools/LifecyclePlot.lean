import Mathlib.Algebra.Order.Ring.Rat
import AlloraSdk.Logic.FirstFit
import AlloraSdk.Source.Tools.LifecycleVisualizer

/-!
# The plot of the lifecycle visualizer

Source: tools/topic_lifecycle_visualizer.py (plot_windows, with
find_available_lane and the placing loop of plot_window_lane).

Widths are exact rationals. What is drawn is a list of bars, each with its lane;
labels, ticks and colours are left out.
-/

namespace AlloraSdk.Source.Tools
open AlloraSdk.Logic

structure Bar where
  window : Window
  startHeight : ℚ
  width : ℚ
  deriving DecidableEq

def Bar.endHeight (bar : Bar) : ℚ := bar.startHeight + bar.width

/-- An open window, and one whose end is block 0, which is falsy. -/
def openWidth (heightRange : ℤ) : ℚ := max (heightRange / 10) 50

def barOf (heightRange : ℤ) (window : Window) : Bar where
  window := window
  startHeight := window.startHeight
  width :=
    match window.endHeight with
    | none => openWidth heightRange
    | some endHeight =>
      if endHeight = 0 then openWidth heightRange
      else if endHeight - window.startHeight = 0 then 1
      else endHeight - window.startHeight

/-- Worker bars keep room for their labels. -/
def labelBuffer (isWorker : Bool) : ℚ := if isWorker then 20 else 0

/-- A new bar against an existing one. -/
def overlaps (buffer : ℚ) (bar existing : Bar) : Bool :=
  !(bar.endHeight + buffer ≤ existing.startHeight || bar.startHeight ≥ existing.endHeight + buffer)

def maxLanes : ℕ := 20

/-- When all lanes are occupied the bar goes to the first one, which does not
remember it. -/
def findAvailableLane (isWorker : Bool) (occupiedLanes : List (List Bar)) (bar : Bar) : ℕ × List (List Bar) :=
  (firstFit (overlaps (labelBuffer isWorker)) maxLanes occupiedLanes bar).getD (0, occupiedLanes)

def placeBars (isWorker : Bool) : List (List Bar) → List Bar → List (Bar × ℕ)
  | _, [] => []
  | occupiedLanes, bar :: rest =>
    let found := findAvailableLane isWorker occupiedLanes bar
    (bar, found.1) :: placeBars isWorker found.2 rest

def plotWindowLane (isWorker : Bool) (heightRange : ℤ) (windows : List Window) : List (Bar × ℕ) :=
  placeBars isWorker [] (windows.map (barOf heightRange))

/-- The heights that the range is taken over; an end at block 0 is none. -/
def allHeights (windows : List Window) : List ℤ :=
  windows.flatMap fun window => window.startHeight :: window.endHeight.toList.filter (· ≠ 0)

def heightRangeOf (windows : List Window) : ℤ :=
  (allHeights windows).max?.getD 0 - (allHeights windows).min?.getD 0

/-- The worker and the reputer panel; nothing without windows. -/
def plotWindows (windows : List Window) : Option (List (Bar × ℕ) × List (Bar × ℕ)) :=
  if windows = [] then none
  else some
    (plotWindowLane true (heightRangeOf windows) (windows.filter (·.windowType = "worker")),
      plotWindowLane false (heightRangeOf windows) (windows.filter (·.windowType = "reputer")))

end AlloraSdk.Source.Tools

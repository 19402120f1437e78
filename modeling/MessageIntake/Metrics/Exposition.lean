import MessageIntake.Binary64.Shortest
/-!
# The exposition of metrics

Metrics are shown as text in families. A family has a name, a line of help, a kind, and one
series for each combination of labels that was touched; a family without series is not
shown. Families are in the order of their names, and series in that of their label values.

Main entry: `Family.expose`.
-/

namespace MessageIntake.Metrics

/-! ### Histograms -/

/-- **A histogram**: bounds, and what was observed, the oldest first. -/
structure Histogram where
  bounds : List Binary64
  observations : List Binary64

namespace Histogram

/-- The number of observations that are not above a bound. -/
def countUpTo (h : Histogram) (bound : Binary64) : Nat :=
  h.observations.countP fun x => !bound.less x

/-- The sum of the observations, taken in their order. -/
def sum (h : Histogram) : Binary64 := h.observations.foldl Binary64.add .zero

/-- The histogram with one more observation. -/
def observe (h : Histogram) (x : Binary64) : Histogram :=
  { h with observations := h.observations ++ [x] }

/-- **Every observation is counted once** in the sum of a histogram's observations. -/
theorem length_observe (h : Histogram) (x : Binary64) :
    (h.observe x).observations.length = h.observations.length + 1 := by
  simp [observe]

end Histogram

/-! ### Families -/

/-- What a series shows. -/
inductive Reading where
  | counter (n : Nat)
  | gauge (n : Int)
  | histogram (h : Histogram)

/-- **A series**: the values of its family's labels, and what it shows. -/
structure Series where
  labels : List String
  reading : Reading

/-- **A family** of series. -/
structure Family where
  name : String
  help : String
  /-- The kind of its series, as it is written. -/
  kind : String
  labelNames : List String
  series : List Series

/-- Values as they are shown: the fewest digits that read back, without exponents. -/
def valueLayout : Binary64.Layout where
  inPlace _ := true
  keepPoint := false
  plusSign := false
  infinityText := "inf"
  nanText := "NaN"

/-- A character of a label value. -/
def escapeLabel (c : Char) : List Char :=
  if c = '\\' then ['\\', '\\']
  else if c = '\x22' then ['\\', '\x22']
  else if c = '\n' then ['\\', 'n']
  else [c]

/-- The labels of a sample, in braces if there are any. -/
def labelsText (labels : List (String × String)) : String :=
  if labels.isEmpty then ""
  else
    "\x7b" ++
      ",".intercalate (labels.map fun (name, value) =>
        name ++ "=\x22" ++ String.ofList (value.toList.flatMap escapeLabel) ++ "\x22") ++
      "\x7d"

/-- One line of a family. -/
def sampleText (name : String) (labels : List (String × String)) (value : String) : String :=
  name ++ labelsText labels ++ " " ++ value ++ "\n"

/-- The lines of a series. -/
def Series.expose (name : String) (labelNames : List String) (s : Series) : String :=
  let labels := labelNames.zip s.labels
  match s.reading with
  | .counter n => sampleText name labels (Nat.repr n)
  | .gauge n => sampleText name labels (toString n)
  | .histogram h =>
    let total := Nat.repr h.observations.length
    String.join (h.bounds.map fun bound =>
        sampleText (name ++ "_bucket") (labels ++ [("le", valueLayout.text bound)])
          (Nat.repr (h.countUpTo bound))) ++
      sampleText (name ++ "_bucket") (labels ++ [("le", "+Inf")]) total ++
      sampleText (name ++ "_sum") labels (valueLayout.text h.sum) ++
      sampleText (name ++ "_count") labels total

/-- The order of lists of texts: that of the first texts that differ. -/
def labelsUpTo : List String → List String → Bool
  | [], _ => true
  | _ :: _, [] => false
  | a :: as, b :: bs => if a = b then labelsUpTo as bs else decide (a < b)

/-- **The lines of a family.** -/
def Family.expose (f : Family) : String :=
  if f.series.isEmpty then ""
  else
    "# HELP " ++ f.name ++ " " ++ f.help ++ "\n" ++
      "# TYPE " ++ f.name ++ " " ++ f.kind ++ "\n" ++
      String.join ((f.series.mergeSort fun a b => labelsUpTo a.labels b.labels).map
        (·.expose f.name f.labelNames))

/-- **The text of some families.** -/
def expose (families : List Family) : String :=
  String.join ((families.mergeSort fun a b => !decide (b.name < a.name)).map Family.expose)

example :
    Family.expose
        ⟨"jobs", "Jobs done", "counter", ["kind"],
          [⟨["b"], .counter 2⟩, ⟨["a"], .counter 1⟩]⟩ =
      "# HELP jobs Jobs done\n# TYPE jobs counter\n" ++
        "jobs\x7bkind=\x22a\x22\x7d 1\njobs\x7bkind=\x22b\x22\x7d 2\n" := by
  cbv

end MessageIntake.Metrics

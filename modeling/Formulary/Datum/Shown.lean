import Formulary.Datum
import Formulary.Decimal.Numeral
import Formulary.Decimal.Shortest
import Formulary.Text.Quoted
/-!
# How messages show data

Texts and bytes are quoted, lists stand in square, tuples in round, and sets and maps in curly brackets,
and the constants have names of their own. Dates and moments are shown by their parts, without seconds
and microseconds that are zero at the end. A text, a date or a moment that is not part of another value
can also be shown plainly.
-/

set_option autoImplicit false
namespace Formulary.Datum

/-- Numbers between commas. -/
def shownNumbers (ns : List Nat) : String := ", ".intercalate (ns.map toString)

/-- An offset from universal time, in seconds behind a whole number of days. -/
def shownOffset (minutes : Int) : String :=
  if minutes = 0 then "datetime.timezone.utc"
  else
    "datetime.timezone(datetime.timedelta(" ++ (if minutes < 0 then "days=-1, " else "") ++
      "seconds=" ++ toString ((60 * minutes) % 86400) ++ "))"

def shownDate (d : Date) : String :=
  "datetime.date(" ++ shownNumbers [d.year, d.month, d.day] ++ ")"

def shownMoment (m : Moment) : String :=
  let t := m.time
  let seconds :=
    if t.microsecond ≠ 0 then [t.second, t.microsecond] else if t.second ≠ 0 then [t.second] else []
  "datetime.datetime(" ++
    shownNumbers ([m.date.year, m.date.month, m.date.day, t.hour, t.minute] ++ seconds) ++
    ((m.offset.map fun n => ", tzinfo=" ++ shownOffset n).getD "") ++ ")"

/-- Items between round brackets; a single one has a comma behind it. -/
def shownTuple : List String → String
  | [s] => "(" ++ s ++ ",)"
  | ss => "(" ++ ", ".intercalate ss ++ ")"

/-- Items between curly brackets; without any there is a word. -/
def shownSet : List String → String
  | [] => "set()"
  | ss => "\x7b" ++ ", ".intercalate ss ++ "\x7d"

mutual

/-- A value as a message shows it. -/
def shown : Datum → String
  | null => "None"
  | bool b => if b then "True" else "False"
  | int n => toString n
  | float x => Decimal.text x
  | text s => Text.quoted s
  | broken t => Text.quotedCodes t.codes
  | bytes bs => Text.quotedBytes bs
  | date d => shownDate d
  | moment m => shownMoment m
  | list items => "[" ++ ", ".intercalate (shownItems items) ++ "]"
  | tuple items => shownTuple (shownItems items)
  | set items => shownSet (shownItems items)
  | map entries => "\x7b" ++ ", ".intercalate (shownEntries entries) ++ "\x7d"

def shownItems : List Datum → List String
  | [] => []
  | d :: ds => shown d :: shownItems ds

def shownEntries : List (Datum × Datum) → List String
  | [] => []
  | (k, v) :: es => (shown k ++ ": " ++ shown v) :: shownEntries es

end

mutual

/-- Whether every integer in a value has few enough digits to be written. -/
def isShowable : Datum → Bool
  | int n => n.natAbs < tenTo Numeral.maxDigits
  | list items | tuple items | set items => areShowable items
  | map entries => areShowableEntries entries
  | _ => true

def areShowable : List Datum → Bool
  | [] => true
  | d :: ds => isShowable d && areShowable ds

def areShowableEntries : List (Datum × Datum) → Bool
  | [] => true
  | (k, v) :: es => isShowable k && isShowable v && areShowableEntries es

end

theorem isShowable_int {n : Int} : (int n).isShowable = true ↔ n.natAbs < tenTo Numeral.maxDigits := by
  rw [isShowable, decide_eq_true_iff]

theorem areShowable_eq (ds : List Datum) : areShowable ds = ds.all isShowable := by
  induction ds with
  | nil => rfl
  | cons d ds ih => rw [areShowable, List.all_cons, ih]

theorem areShowableEntries_eq (es : List (Datum × Datum)) :
    areShowableEntries es = es.all fun e => e.1.isShowable && e.2.isShowable := by
  induction es with
  | nil => rfl
  | cons e es ih => rw [areShowableEntries, List.all_cons, ih]

theorem isShowable_of_mem_list {items : List Datum} (h : (list items).isShowable = true) :
    ∀ d ∈ items, d.isShowable = true := by
  rw [isShowable, areShowable_eq] at h
  exact List.all_eq_true.1 h

theorem isShowable_of_mem_map {entries : List (Datum × Datum)} (h : (map entries).isShowable = true) :
    ∀ e ∈ entries, e.1.isShowable = true ∧ e.2.isShowable = true := by
  rw [isShowable, areShowableEntries_eq] at h
  exact fun e he => Bool.and_eq_true_iff.1 (List.all_eq_true.1 h e he)

/-- A text as it is, dates and moments in figures, any other value as a message shows it. A broken text
has no plain form, so it is shown as well. -/
def plain : Datum → String
  | text s => s
  | date d => d.text
  | moment m => m.text
  | d => d.shown

/-- A list of texts as a message shows it. -/
def shownTexts (ss : List String) : String := (list (ss.map text)).shown

end Formulary.Datum

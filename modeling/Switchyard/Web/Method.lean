import Switchyard.Text.Split

/-!
# Request methods

A method is a token, and a `Method` carries the proof that it is one. The nine standard methods have
a fixed order; all others come after them in the order of their text, so `Method.sort` does not
depend on the order in which methods are met.

## Main results

* `Method.before_total`, `Method.before_trans`, `Method.before_antisymm`: the order is linear.
* `Method.sort_eq_sort`: the order in which methods are met does not matter.
-/

namespace Switchyard.Web

/-- A character of a token. -/
def isTokenChar (c : Char) : Bool :=
  c.isAlphanum || "!#$%&'*+-.^_`|~".toList.contains c

/-- Is the text a token, that is, not empty and of token characters only? -/
def isToken (cs : List Char) : Bool :=
  !cs.isEmpty && cs.all isTokenChar

/-- A request method. -/
structure Method where
  name : String
  isToken : isToken name.toList = true := by decide
  deriving Repr, DecidableEq

namespace Method

def get : Method := { name := "GET" }
def head : Method := { name := "HEAD" }
def post : Method := { name := "POST" }
def put : Method := { name := "PUT" }
def delete : Method := { name := "DELETE" }
def patch : Method := { name := "PATCH" }
def options : Method := { name := "OPTIONS" }
def connect : Method := { name := "CONNECT" }
def trace : Method := { name := "TRACE" }

instance : Inhabited Method := ⟨get⟩

/-- The methods that a route for every method answers, in their order. -/
def standard : List Method :=
  [get, head, post, put, delete, patch, options, connect, trace]

/-- The method that a text names, with its letters as they are. -/
def ofText? (text : String) : Option Method :=
  if h : Web.isToken text.toList = true then some ⟨text, h⟩ else none

/-- The place of a method among the standard ones; all others share the place behind them. -/
def rank (m : Method) : Nat :=
  standard.idxOf m

/-- Does `a` stand before `b`, or in the same place? -/
def before (a b : Method) : Bool :=
  a.rank < b.rank || (a.rank == b.rank && decide (a.name ≤ b.name))

/-- The methods in their order. -/
def sort (ms : List Method) : List Method :=
  ms.mergeSort before

/-! ### Lemmas -/

theorem before_total (a b : Method) : (a.before b || b.before a) = true := by
  rcases Nat.lt_trichotomy a.rank b.rank with h | h | h
  · simp [before, h]
  · rcases Std.le_total (a := a.name) (b := b.name) with h' | h' <;> simp [before, h, h']
  · simp [before, h]

theorem before_trans (a b c : Method) (hab : a.before b = true) (hbc : b.before c = true) :
    a.before c = true := by
  simp only [before, Bool.or_eq_true, Bool.and_eq_true, decide_eq_true_eq, beq_iff_eq] at *
  rcases hab with hab | ⟨hab, hn⟩ <;> rcases hbc with hbc | ⟨hbc, hn'⟩
  · exact .inl (Nat.lt_trans hab hbc)
  · exact .inl (hbc ▸ hab)
  · exact .inl (hab ▸ hbc)
  · exact .inr ⟨hab.trans hbc, Std.le_trans hn hn'⟩

theorem before_antisymm {a b : Method} (hab : a.before b = true) (hba : b.before a = true) :
    a = b := by
  simp only [before, Bool.or_eq_true, Bool.and_eq_true, decide_eq_true_eq, beq_iff_eq] at *
  have hname : a.name = b.name := by
    rcases hab with hab | ⟨hr, hab⟩ <;> rcases hba with hba | ⟨hr', hba⟩
    · omega
    · omega
    · omega
    · exact Std.le_antisymm hab hba
  cases a
  cases b
  cases hname
  rfl

theorem mem_sort {m : Method} {ms : List Method} : m ∈ sort ms ↔ m ∈ ms :=
  List.mem_mergeSort

theorem pairwise_sort (ms : List Method) : (sort ms).Pairwise fun a b => a.before b = true :=
  List.pairwise_mergeSort before_trans before_total ms

theorem nodup_sort {ms : List Method} (h : ms.Nodup) : (sort ms).Nodup :=
  (List.mergeSort_perm ms before).nodup_iff.2 h

/-- Sorted methods without repetitions are determined by which methods they are. -/
theorem sort_eq_sort {ms ns : List Method} (hms : ms.Nodup) (hns : ns.Nodup)
    (h : ∀ m, m ∈ ms ↔ m ∈ ns) : sort ms = sort ns := by
  have hperm : (sort ms).Perm (sort ns) :=
    (List.perm_ext_iff_of_nodup (nodup_sort hms) (nodup_sort hns)).2 fun m =>
      mem_sort.trans ((h m).trans mem_sort.symm)
  exact hperm.eq_of_pairwise (fun _ _ _ _ hab hba => before_antisymm hab hba)
    (pairwise_sort ms) (pairwise_sort ns)

end Method

/-- The method that a route is declared for. -/
inductive RouteMethod where
  /-- every standard method -/
  | any
  | only (m : Method)
  deriving Repr, DecidableEq, Inhabited

namespace RouteMethod

/-- The declared method that a text names: `*`, or a method in letters of either case. -/
def ofText? (text : String) : Option RouteMethod :=
  if text = "*" then some .any else (Method.ofText? (Text.uppercase text)).map .only

/-- The methods that a route declared so answers. -/
def expand : RouteMethod → List Method
  | any => Method.standard
  | only m => [m]

def text : RouteMethod → String
  | any => "*"
  | only m => m.name

end RouteMethod

end Switchyard.Web

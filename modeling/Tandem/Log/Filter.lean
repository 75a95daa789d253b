import Tandem.Log.Directive

/-!
# Log filters

A filter decides which notes are written and which activities are named in them. Notes and
activities come from *sites*: places of the program with a target, a level and fields. Directives
are of two kinds, and one directive may be of both. *Static* ones speak about sites, and of those
that fit a site the most specific decides. *Dynamic* ones speak about activities: an activity that
one of them fits is always named, and while it lasts notes pass up to the rank of the directives
that fit it with their values.
-/

namespace Tandem

/-- A place of the program that notes or activities come from. -/
structure Site where
  target : String
  level : Level
  /-- The name of the activity; notes have none. -/
  activity : Option String
  fields : List String
  deriving DecidableEq, Repr

/-- An activity that is going on: where it comes from, and the texts of its fields. -/
structure Scope where
  site : Site
  values : List (String × String)
  deriving DecidableEq, Repr

/-- Directives of both kinds, each ordered from the most specific down, and the highest rank that
any directive was given. -/
structure Filter where
  statics : List Directive := []
  dynamics : List Directive := []
  staticRank : Nat := 0
  dynamicRank : Nat := 0
  deriving DecidableEq, Repr

namespace Directive

/-- The directive is about the target of the site. -/
def fitsTarget (d : Directive) (site : Site) : Bool :=
  d.target.all fun t => t.toList.isPrefixOf site.target.toList

/-- The site has the field of the directive. -/
def fitsField (d : Directive) (site : Site) : Bool :=
  d.field.all fun f => site.fields.contains f.name

/-- The static directive is about the site. Of an activity the fields are not looked at. -/
def fitsStatic (d : Directive) (site : Site) : Bool :=
  d.fitsTarget site && (site.activity.isSome || d.fitsField site)

/-- The dynamic directive is about the activity of the site. -/
def fitsDynamic (d : Directive) (site : Site) : Bool :=
  d.fitsTarget site && d.activity.all (some · == site.activity) && d.fitsField site

/-- The fields of an activity are as the directive has them. -/
def fitsValues (d : Directive) (scope : Scope) : Bool :=
  d.field.all fun f => f.value.all fun v => (scope.values.lookup f.name).any v.accepts

/-- What a directive is about, in the order in which specificity is compared. -/
def key (d : Directive) : List Nat :=
  let present {α : Type} (o : Option α) : Nat := if o.isSome then 1 else 0
  let name (o : Option String) : List Nat := ((o.getD "").toList.map (·.toNat + 1)) ++ [0]
  [present d.target, (d.target.getD "").utf8ByteSize, present d.activity, present d.field] ++
    name d.target ++ name d.activity ++ [present (d.field.bind (·.value))] ++
    name (d.field.map (·.name)) ++ name (d.field.bind (·.value) |>.map fun
      | .scalar text => text
      | .pattern text _ => text)

/-- Puts a directive where it belongs; one that is about the very same makes place for it. -/
def insert (d : Directive) : List Directive → List Directive
  | [] => [d]
  | e :: rest =>
    if d.key = e.key then d :: rest
    else if e.key < d.key then d :: e :: rest
    else e :: insert d rest

end Directive

namespace Filter

/-- Adds directives, in order. -/
def ofDirectives (ds : List Directive) : Filter :=
  let statics := ds.filter (fun d => !d.isDynamic && d.isStatic) ++
    ds.filter (fun d => d.isDynamic && d.isStatic)
  let dynamics := ds.filter Directive.isDynamic
  let highest (ds : List Directive) : Nat := ds.foldl (fun n d => max n d.rank) 0
  { statics := statics.foldl (fun f d => Directive.insert d f) []
    dynamics := dynamics.foldl (fun f d => Directive.insert d f) []
    staticRank := highest statics
    dynamicRank := highest dynamics }

/-- The filter that is used when none is given, or none that can be read. -/
def standard : Filter :=
  ofDirectives [{ rank := Level.info.rank }]

/-- The filter of directives between commas; none at all leave only errors. -/
def parse? (text : String) : Option Filter :=
  match (Words.runs (· == ',') text.toList).map String.ofList with
  | [] => some (ofDirectives [{ rank := Level.error.rank }])
  | pieces => (pieces.mapM Directive.ofText?).map ofDirectives

/-- The filter for the value of a variable, which may be unset. -/
def ofVariable (value : Option String) : Filter :=
  (value.bind parse?).getD standard

/-- The rank above which nothing passes. -/
def highest (f : Filter) : Nat :=
  if f.dynamics.any fun d => d.field.any (·.value.isSome) then Level.most
  else max f.staticRank f.dynamicRank

/-- The most specific static directive about a site lets its level pass. -/
def enablesStatically (f : Filter) (site : Site) : Bool :=
  match f.statics.find? (·.fitsStatic site) with
  | some d => site.level.rank ≤ d.rank
  | none => false

/-- The rank up to which notes pass while an activity lasts, if a dynamic directive is about it. -/
def rankIn (f : Filter) (scope : Scope) : Option Nat :=
  let about := f.dynamics.filter (·.fitsDynamic scope.site)
  if about.isEmpty then none
  else some ((about.filter (·.fitsValues scope)).foldl (fun n d => max n d.rank) 0)

/-- What comes from a site passes, inside activities that let pass up to these ranks. -/
def enables (f : Filter) (ranks : List Nat) (site : Site) : Bool :=
  site.level.rank ≤ f.highest &&
    ((site.activity.isSome && f.dynamics.any (·.fitsDynamic site)) ||
      f.enablesStatically site ||
      (site.level.rank ≤ f.dynamicRank && ranks.any (site.level.rank ≤ ·)))

/-- Of activities inside one another, the outermost first: those that are named, and the ranks up to
which notes pass inside them. -/
def enter (f : Filter) (scopes : List Scope) : List Scope × List Nat :=
  scopes.foldl (fun (named, ranks) scope =>
    if f.enables ranks scope.site then (named ++ [scope], ranks ++ (f.rankIn scope).toList)
    else (named, ranks)) ([], [])

end Filter

end Tandem

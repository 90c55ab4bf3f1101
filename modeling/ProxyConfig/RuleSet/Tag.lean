import ProxyConfig.Settings

/-!
# Rule-set tags and their addresses

A rule-set is a binary database of sites or addresses.  Its tag is the kind with a name; the label
of the tag is its identity in documents, file names and download addresses.
-/

namespace ProxyConfig

/-- The kind of a database, in the order of their labels. -/
inductive RuleSetKind where
  | geoip
  | geosite
deriving Repr, DecidableEq, Inhabited

/-- The first part of the labels of a kind. -/
def RuleSetKind.word : RuleSetKind → String
  | .geoip => "geoip"
  | .geosite => "geosite"

/-- A rule-set. -/
structure RuleSetTag where
  kind : RuleSetKind
  name : String
deriving Repr, DecidableEq, Inhabited

namespace RuleSetTag

/-- The label of a tag. -/
def label (tag : RuleSetTag) : String :=
  tag.kind.word ++ "-" ++ tag.name

/-- The name of the file that holds the rule-set. -/
def fileName (tag : RuleSetTag) : String :=
  tag.label ++ ".srs"

/-- The order of tags: address databases first, then by name. -/
def precedes (a b : RuleSetTag) : Bool :=
  match a.kind, b.kind with
  | .geoip, .geosite => true
  | .geosite, .geoip => false
  | .geoip, .geoip | .geosite, .geosite => a.name < b.name

/-- Put a tag at its place in an increasing list, unless it is there already. -/
def insert (tag : RuleSetTag) : List RuleSetTag → List RuleSetTag
  | [] => [tag]
  | t :: rest =>
    if tag = t then t :: rest
    else if tag.precedes t then tag :: t :: rest
    else t :: insert tag rest

/-- The tags of a list in increasing order, each once. -/
def sorted (tags : List RuleSetTag) : List RuleSetTag :=
  tags.foldr insert []

theorem mem_insert {tag t : RuleSetTag} {tags : List RuleSetTag} :
    t ∈ insert tag tags ↔ t = tag ∨ t ∈ tags := by
  induction tags with
  | nil => simp [insert]
  | cons x rest ih =>
    by_cases h : tag = x
    · subst h
      simp [insert]
    · by_cases hp : tag.precedes x
      · simp [insert, h, hp]
      · simp only [insert, if_neg h, hp, Bool.false_eq_true, if_false, List.mem_cons, ih]
        constructor
        · rintro (h | h | h) <;> simp [h]
        · rintro (h | h | h) <;> simp [h]

theorem mem_sorted {t : RuleSetTag} {tags : List RuleSetTag} : t ∈ sorted tags ↔ t ∈ tags := by
  induction tags with
  | nil => simp [sorted]
  | cons x rest ih =>
    have h : sorted (x :: rest) = insert x (sorted rest) := rfl
    rw [h, mem_insert, ih, List.mem_cons]

end RuleSetTag

/-- Where rule-sets are downloaded from. -/
structure RuleSetSource where
  baseUrl : String
  /-- A text put before every address as it is. -/
  front : Option String
deriving Repr, DecidableEq, Inhabited

namespace RuleSetSource

/-- The source named by the settings. -/
def ofSettings (settings : Settings) : RuleSetSource where
  baseUrl := settings.ruleSetBaseUrl
  front := settings.downloadPrefix?

/-- The base address without the slashes at its end. -/
def base (source : RuleSetSource) : String :=
  String.ofList (source.baseUrl.toList.reverse.dropWhile (· == '/')).reverse

/-- The address of a rule-set, without the text in front.  Address databases lie in a directory
beside the base. -/
def directUrl (source : RuleSetSource) (tag : RuleSetTag) : String :=
  match tag.kind with
  | .geosite => source.base ++ "/" ++ tag.fileName
  | .geoip => source.base ++ "/../rule-set-geoip/" ++ tag.fileName

/-- The address of a rule-set. -/
def url (source : RuleSetSource) (tag : RuleSetTag) : String :=
  source.front.getD "" ++ source.directUrl tag

end RuleSetSource
end ProxyConfig

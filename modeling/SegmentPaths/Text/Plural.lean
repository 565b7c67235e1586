/-
English plural names.  A name is a known word, or the last word of it follows
one of the ending rules, or it takes an s.
-/
import SegmentPaths.Text.Word

namespace SegmentPaths

/-- A character of a word ending. -/
inductive LetterClass
  | exactly (c : Char)
  | oneOf (cs : String)
  | noneOf (cs : String)

def LetterClass.accepts : LetterClass → Char → Bool
  | .exactly c, found => c == found
  | .oneOf cs, found => cs.toList.contains found
  | .noneOf cs, found => !cs.toList.contains found

/-- A rule for words that end in one of several stems with one of several tails
behind it; the tail is replaced by the plural ending. -/
structure PluralRule where
  stems : List (List LetterClass)
  tails : List String
  ending : String

namespace PluralRule

/-- A stem spelled out. -/
def spelled (letters : String) : List LetterClass := letters.toList.map .exactly

/-- The stem at the front of a text, and the rest. -/
def takeStem? : List LetterClass → List Char → Option (List Char × List Char)
  | [], cs => some ([], cs)
  | _ :: _, [] => none
  | letter :: letters, c :: cs =>
    if letter.accepts c then (takeStem? letters cs).map (fun (stem, rest) => (c :: stem, rest))
    else none

/-- The stem at the front of a text, if a tail behind it ends the text. -/
def stemBefore? (rule : PluralRule) (cs : List Char) : Option (List Char) :=
  rule.stems.findSome? (fun stem =>
    match takeStem? stem cs with
    | some (found, rest) => if rule.tails.contains (String.ofList rest) then some found else none
    | none => none)

/-- The word at the front of a text up to its tail; as much as possible of it
stands before the stem. -/
def wordBefore? (rule : PluralRule) : List Char → Option (List Char)
  | [] => rule.stemBefore? []
  | c :: cs =>
    if isWordChar c then
      match wordBefore? rule cs with
      | some found => some (c :: found)
      | none => rule.stemBefore? (c :: cs)
    else rule.stemBefore? (c :: cs)

/-- The leftmost word that follows the rule, with the plural ending. -/
def plural? (rule : PluralRule) : List Char → Option (List Char)
  | [] => (rule.wordBefore? []).map (· ++ rule.ending.toList)
  | c :: cs =>
    match rule.wordBefore? (c :: cs) with
    | some found => some (found ++ rule.ending.toList)
    | none => plural? rule cs

/-- A rule whose stems are spelled out. -/
def plain (stems tails : List String) (ending : String) : PluralRule :=
  ⟨stems.map spelled, tails, ending⟩

end PluralRule

open PluralRule in
/-- The rules, in the order they are tried. -/
def pluralRules : List PluralRule :=
  [plain ["eaux"] [""] "",
   plain ["child"] ["ren", ""] "ren",
   plain ["person", "people"] [""] "ople",
   plain ["mice", "mouse", "lice", "louse"] [""] "ice",
   plain ["matr", "cod", "mur", "sil", "vert", "ind", "append"] ["ix", "ex"] "ices",
   plain ["x", "ch", "ss", "sh", "zz"] [""] "es",
   plain ["xes", "ches", "sses", "shes", "zzes"] [""] "",
   ⟨[[.noneOf "ch", .oneOf "ieo", .oneOf "ln"]], ["ey"], "ies"⟩,
   ⟨[[.noneOf "aeiouy"], spelled "qu"], ["y"], "ies"⟩,
   plain ["ar", "l", "ea", "eo", "oa", "hoo"] ["f"] "ves",
   plain ["kni", "wi", "li"] ["fe"] "ves",
   plain [""] ["sis"] "ses",
   plain ["apheli", "hyperbat", "periheli", "asyndet", "noumen", "phenomen", "criteri", "organ",
     "prolegomen", "hedr", "automat"] ["a", "on"] "a",
   plain ["agend", "addend", "millenni", "dat", "extrem", "bacteri", "desiderat", "strat",
     "candelabr", "errat", "ov", "symposi", "curricul", "automat", "quor"] ["a", "um"] "a",
   plain ["her", "at", "gr"] ["o"] "oes",
   plain ["seraph", "cherub"] ["im", ""] "im",
   plain ["alumn", "alg", "vertebr"] ["a", "ae"] "ae",
   plain ["alumn", "syllab", "octop", "vir", "radi", "nucle", "fung", "cact", "stimul", "termin",
     "bacill", "foc", "uter", "loc", "strat"] ["us", "i"] "i",
   ⟨[.noneOf "l" :: spelled "ias", .oneOf "aeiou" :: spelled "las", .oneOf "emjzr" :: spelled "as",
     .oneOf "iu" :: spelled "am"], [""], ""⟩,
   ⟨[[.exactly 'e', .oneOf "mn", .exactly 'u']], ["s", ""], "s"⟩,
   ⟨[spelled "alias", .noneOf "aou" :: spelled "us", spelled "tlas", spelled "gas",
     spelled "ris"], [""], "es"⟩,
   plain ["ax", "test"] ["is"] "es",
   ⟨[.noneOf "aeiou" :: spelled "ese"], [""], ""⟩,
   plain [""] ["s"] "s"]

/-- Words without a plural. -/
def uncountableWords : List String :=
  ["accommodation", "adulthood", "advertising", "advice", "aggression", "aid", "air",
   "aircraft", "alcohol", "anger", "applause", "arithmetic", "assistance", "athletics", "bacon",
   "baggage", "beef", "biology", "blood", "botany", "bread", "butter", "carbon", "cardboard",
   "cash", "chalk", "chaos", "chess", "crossroads", "countryside", "dancing", "deer", "dignity",
   "dirt", "dust", "economics", "education", "electricity", "engineering", "enjoyment", "envy",
   "equipment", "ethics", "evidence", "evolution", "fame", "fiction", "flour", "flu", "food",
   "fuel", "fun", "furniture", "gallows", "garbage", "garlic", "genetics", "gold", "golf",
   "gossip", "grammar", "gratitude", "grief", "guilt", "gymnastics", "happiness", "hardware",
   "harm", "hate", "hatred", "health", "heat", "help", "homework", "honesty", "honey",
   "hospitality", "housework", "humour", "hunger", "hydrogen", "ice", "importance", "inflation",
   "information", "innocence", "iron", "irony", "jam", "jewelry", "judo", "karate", "knowledge",
   "lack", "laughter", "lava", "leather", "leisure", "lightning", "linguine", "linguini",
   "linguistics", "literature", "litter", "livestock", "logic", "loneliness", "luck", "luggage",
   "macaroni", "machinery", "magic", "management", "mankind", "marble", "mathematics",
   "mayonnaise", "measles", "methane", "milk", "money", "mud", "music", "mumps", "nature",
   "news", "nitrogen", "nonsense", "nurture", "nutrition", "obedience", "obesity", "oxygen",
   "pasta", "patience", "physics", "poetry", "pollution", "poverty", "pride", "psychology",
   "publicity", "punctuation", "quartz", "racism", "relaxation", "reliability", "research",
   "respect", "revenge", "rice", "rubbish", "rum", "safety", "scenery", "seafood", "seaside",
   "series", "shame", "sheep", "shopping", "sleep", "smoke", "smoking", "snow", "soap",
   "software", "soil", "spaghetti", "species", "steam", "stuff", "stupidity", "sunshine",
   "symmetry", "tennis", "thirst", "thunder", "timber", "traffic", "transportation", "trust",
   "underwear", "unemployment", "unity", "validity", "veal", "vegetation", "vegetarianism",
   "vengeance", "violence", "vitality", "warmth", "wealth", "weather", "welfare", "wheat",
   "wildlife", "wisdom", "yoga", "zinc", "zoology"]

/-- Words whose plural follows no rule. -/
def irregularPlurals : List (String × String) :=
  [("ox", "oxen"), ("man", "men"), ("woman", "women"), ("die", "dice"), ("yes", "yeses"),
   ("foot", "feet"), ("eave", "eaves"), ("goose", "geese"), ("tooth", "teeth"),
   ("quiz", "quizzes")]

/-- The plural of a name. -/
def pluralName (name : String) : String :=
  if uncountableWords.contains name then name
  else
    match irregularPlurals.lookup name with
    | some plural => plural
    | none =>
      match pluralRules.findSome? (fun rule => rule.plural? name.toList) with
      | some plural => String.ofList plural
      | none => name ++ "s"

end SegmentPaths

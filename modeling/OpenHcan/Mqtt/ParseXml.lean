import Mathlib.Data.List.Induction
import OpenHcan.Lib.SiblingTree
import OpenHcan.Mqtt.CatHesTopic

/-!
# ParseXml — what the installation says of an id

`getXmlDatenZurId` walks through the document of the installation. It keeps the
name of the last `bereich` and the last `raum` it came across, and stops at the
element with the attribute `gruppe` it looks for. The counter of the nodes it
is done with bounds the walk, and setting it to the bound is the found signal.

The document is what libxml has parsed: `node->children` and `node->next`. The
attributes are what `xmlGetProp` returns of them. A missing attribute is a null
pointer, which `%s` prints as "(null)".
-/

namespace OpenHcan.Mqtt.ParseXml

open Lib

set_option maxRecDepth 100000

/-! ## The document -/

/-- An element: its name and its attributes. -/
structure Tag where
  name : List Char
  props : List (List Char × List Char)
deriving DecidableEq, Repr

/-- `node->type`: an element, or a text, a comment and the like. -/
inductive NodeType where
  | element (tag : Tag)
  | other
deriving DecidableEq, Repr

/-- `xmlNode *` -/
abbrev XmlNode := Siblings NodeType

/-- The root element of a document and `root->children`. -/
structure XmlDoc where
  root : Tag
  children : XmlNode
deriving DecidableEq, Repr

/-- `xmlGetProp` -/
def Tag.xmlGetProp (node : Tag) (name : String) : Option (List Char) :=
  node.props.lookup name.toList

/-- What `%s` prints of a pointer. -/
def percentS : Option (List Char) → List Char
  | some s => s
  | none => "(null)".toList

/-- `snprintf(buf, n, …)` of a formatted text: what lies behind the terminator
stays. -/
def snprintf (n : Nat) (buf s : List Char) : List Char :=
  let written := snprintfS n s
  written ++ nul :: buf.drop (written.length + 1)

/-- `memset(buf, '\0', n)` -/
def zeros (n : Nat) : List Char := List.replicate n nul

/-! ## The walk -/

def maxNodeAnz : Nat := 1000

/-- The variables the walk writes, besides `nodeAnz`. -/
structure Globals where
  dev : DevTable
  raumname : List Char
  stt : List Char
  devInXmlEnthalten : Bool

/-- `snprintf(dev[id].Bereichsname, …, xmlGetProp(node, "name"))` -/
def setzeBereichsname (gesuchteId : UInt8) (node : Tag) (g : Globals) : Globals :=
  { g with
    dev := g.dev.put gesuchteId fun d =>
      { d with bereichsname := snprintf 4 d.bereichsname (percentS (node.xmlGetProp "name")) } }

/-- bereich gefunden? raum gefunden? -/
def sichereNamen (gesuchteId : UInt8) (node : Tag) (g : Globals) : Globals :=
  if node.name = "bereich".toList then setzeBereichsname gesuchteId node g
  else if node.name = "raum".toList then
    { g with raumname := snprintf 15 g.raumname (percentS (node.xmlGetProp "name")) }
  else g

/-- The attribute `stt`, or else `nostt`. -/
def sttOderNostt (node : Tag) : List Char :=
  match node.xmlGetProp "stt" with
  | some stt => stt
  | none => percentS (node.xmlGetProp "nostt")

/-- id gefunden -/
def idGefunden (debug : Bool) (gesuchteId : UInt8) (node : Tag) (g : Globals) : Globals :=
  let bereichsname := text (g.dev gesuchteId).bereichsname
  let stt := bereichsname ++ ' ' :: sttOderNostt node ++
    if debug then ' ' :: printU gesuchteId.toNat else []
  { g with
    dev := g.dev.put gesuchteId fun d =>
      { d with sonstige := decide (node.xmlGetProp "typ" = some "sonstige".toList) }
    stt := snprintf 25 g.stt stt
    devInXmlEnthalten := true }

/-- `getDatenZuId` with the globals and `nodeAnz`. -/
def getDatenZuId (debug : Bool) (gesuchteId : UInt8) (strId : List Char) :
    XmlNode → Globals × Nat → Globals × Nat
  | .null, s => s
  | .node type children next, (g, nodeAnz) =>
      if nodeAnz < maxNodeAnz then
        let (g, nodeAnz) := match type with
          | .other => (g, nodeAnz)
          | .element node =>
              let g := sichereNamen gesuchteId node g
              if node.xmlGetProp "gruppe" = some strId then
                (idGefunden debug gesuchteId node g, maxNodeAnz)
              else (g, nodeAnz)
        let (g, nodeAnz) := getDatenZuId debug gesuchteId strId children (g, nodeAnz)
        getDatenZuId debug gesuchteId strId next (g, nodeAnz + 1)
      else (g, nodeAnz)

/-- `"%u"` of the id in `strId[5]`. -/
def strIdOf (id : UInt8) : List Char := snprintfS 5 (printU id.toNat)

/-- The globals the walk starts with. -/
def beginn (dev : DevTable) (id : UInt8) : Globals :=
  { dev := dev.put id fun d => { d with bereichsname := zeros 4 }
    raumname := zeros 15
    stt := zeros 25
    devInXmlEnthalten := false }

/-- kein Bereichsname? fehlenden Bereichsnamen durch '-' ersetzen -/
def ersetzeBereichsname (bereichsname : List Char) : List Char :=
  if strncmpEq 4 bereichsname [] then bereichsname.set 0 '-' else bereichsname

/-- `getXmlDatenZurId`: the globals afterwards; the result is
`devInXmlEnthalten`. -/
def getXmlDatenZurId (debug : Bool) (document : XmlDoc) (dev : DevTable) (id : UInt8) : Globals :=
  let g := (getDatenZuId debug id (strIdOf id) document.children (beginn dev id, 0)).1
  { g with
    dev := g.dev.put id fun d => { d with bereichsname := ersetzeBereichsname d.bereichsname } }

/-! ## The walk in document order -/

/-- What the walk does at a node. -/
def besuche (debug : Bool) (gesuchteId : UInt8) (strId : List Char) (type : NodeType)
    (g : Globals) : Globals :=
  match type with
  | .other => g
  | .element node =>
      if node.xmlGetProp "gruppe" = some strId then
        idGefunden debug gesuchteId node (sichereNamen gesuchteId node g)
      else sichereNamen gesuchteId node g

/-- The node is an element with `gruppe` equal to the id. -/
def hatGruppe (strId : List Char) : NodeType → Bool
  | .other => false
  | .element node => decide (node.xmlGetProp "gruppe" = some strId)

/-- The name of an element of a kind. -/
def nameVon (art : String) : NodeType → Option (List Char)
  | .other => none
  | .element node =>
      if node.name = art.toList then some (percentS (node.xmlGetProp "name")) else none

/-- The name of the last element of a kind. -/
def letzterName (art : String) (nodes : List NodeType) : Option (List Char) :=
  (nodes.filterMap (nameVon art)).getLast?

variable {debug : Bool} {id : UInt8} {strId : List Char}

/-- The recursion over the pointers is the bounded walk through a forest. -/
theorem getDatenZuId_eq_walk (t : XmlNode) (s : Globals × Nat) :
    getDatenZuId debug id strId t s
      = t.walk maxNodeAnz (hatGruppe strId) (besuche debug id strId) s := by
  induction t generalizing s with
  | null => rfl
  | node type children next ihc ihn =>
      obtain ⟨g, nodeAnz⟩ := s
      cases type with
      | other => simp [getDatenZuId, Siblings.walk, ihc, ihn, besuche, hatGruppe]
      | element node =>
          by_cases hid : node.xmlGetProp "gruppe" = some strId
          · simp [getDatenZuId, Siblings.walk, ihc, ihn, besuche, hatGruppe, hid]
          · simp [getDatenZuId, Siblings.walk, ihc, ihn, besuche, hatGruppe, hid]

/-- The nodes the search for an id visits. -/
def besucht (document : XmlDoc) (id : UInt8) : List NodeType :=
  Siblings.upTo (hatGruppe (strIdOf id)) (document.children.reach maxNodeAnz 0)

/-- **The walk visits the nodes in document order up to the first hit**, as far
as the counter lets it. -/
theorem getDatenZuId_eq (document : XmlDoc) (g : Globals) :
    (getDatenZuId debug id (strIdOf id) document.children (g, 0)).1
      = (besucht document id).foldl (fun g type => besuche debug id (strIdOf id) type g) g := by
  rw [getDatenZuId_eq_walk]
  exact (Siblings.walk_spec _ _ _).1

/-! ## Found -/

@[simp] theorem sichereNamen_found (node : Tag) (g : Globals) :
    (sichereNamen id node g).devInXmlEnthalten = g.devInXmlEnthalten := by
  rw [sichereNamen]
  split
  · rfl
  · split <;> rfl

theorem text_snprintf (n : Nat) (buf s : List Char) : text (snprintf n buf s) = snprintfS n s := by
  have hnul : nul ∉ snprintfS n s := fun hmem =>
    nul_notMem_text s (List.mem_of_mem_take hmem)
  rw [snprintf, text_append hnul, text_cons]
  simp

theorem besuche_bereichsname (type : NodeType) (g : Globals) :
    ((besuche debug id strId type g).dev id).bereichsname
      = (nameVon "bereich" type).elim (g.dev id).bereichsname
          (snprintf 4 (g.dev id).bereichsname) := by
  have hnames : ∀ node, ((sichereNamen id node g).dev id).bereichsname
      = (nameVon "bereich" (.element node)).elim (g.dev id).bereichsname
          (snprintf 4 (g.dev id).bereichsname) := by
    intro node
    rw [sichereNamen, nameVon]
    split
    · simp [setzeBereichsname, DevTable.put_self]
    · split <;> rfl
  cases type with
  | other => rfl
  | element node =>
      rw [besuche]
      split
      · simp only [idGefunden, DevTable.put_self]
        exact hnames node
      · exact hnames node

theorem letzterName_concat (art : String) (nodes : List NodeType) (type : NodeType) :
    letzterName art (nodes ++ [type]) = (nameVon art type).or (letzterName art nodes) := by
  rw [letzterName, List.filterMap_append]
  cases hname : nameVon art type with
  | none =>
      rw [List.filterMap_cons_none hname, List.filterMap_nil, List.append_nil]
      rfl
  | some name =>
      rw [List.filterMap_cons_some hname, List.filterMap_nil, List.getLast?_concat]
      rfl

/-- A buffer that every element of a kind writes its name into holds the name of
the last one. -/
theorem foldl_feld {feld : Globals → List Char} {art : String} {n : Nat}
    (hfeld : ∀ type g, feld (besuche debug id strId type g)
      = (nameVon art type).elim (feld g) (snprintf n (feld g))) (nodes : List NodeType)
    (g : Globals) :
    (letzterName art nodes = none →
      feld (nodes.foldl (fun g type => besuche debug id strId type g) g) = feld g) ∧
    ∀ name, letzterName art nodes = some name →
      ∃ buf, feld (nodes.foldl (fun g type => besuche debug id strId type g) g)
        = snprintf n buf name := by
  induction nodes using List.reverseRecOn with
  | nil => simp [letzterName]
  | append_singleton nodes type ih =>
      rw [List.foldl_append, List.foldl_cons, List.foldl_nil, hfeld, letzterName_concat]
      cases hname : nameVon art type with
      | none => exact ih
      | some name =>
          refine ⟨nofun, fun name' heq => ?_⟩
          cases heq
          exact ⟨_, rfl⟩

theorem besucht_bereichsname (nodes : List NodeType) (g : Globals) :
    (letzterName "bereich" nodes = none →
      ((nodes.foldl (fun g type => besuche debug id strId type g) g).dev id).bereichsname
        = (g.dev id).bereichsname) ∧
    ∀ name, letzterName "bereich" nodes = some name →
      ∃ buf, ((nodes.foldl (fun g type => besuche debug id strId type g) g).dev id).bereichsname
        = snprintf 4 buf name :=
  @foldl_feld debug id strId (fun g => (g.dev id).bereichsname) "bereich" 4
    besuche_bereichsname nodes g

/-- What `dev[id].Bereichsname` is after the search, by the name of the last
area: the name cut off at three characters, "-" without an area. For an empty
name only the first character is written. -/
def BereichsnameZu (letzter : Option (List Char)) (bereichsname : List Char) : Prop :=
  match letzter with
  | none => bereichsname = ['-']
  | some name =>
      if snprintfS 4 name = [] then bereichsname.head? = some '-'
      else bereichsname = snprintfS 4 name

theorem BereichsnameZu.ne_nil {letzter : Option (List Char)} {bereichsname : List Char}
    (h : BereichsnameZu letzter bereichsname) : bereichsname ≠ [] := by
  rintro rfl
  cases letzter with
  | none => cases h
  | some name =>
      by_cases hempty : snprintfS 4 name = []
      · simp [BereichsnameZu, hempty] at h
      · simp only [BereichsnameZu, if_neg hempty] at h
        exact hempty h.symm

theorem bereichsnameZu_ersetze {letzter : Option (List Char)} {buf : List Char}
    (hnone : letzter = none → buf = zeros 4)
    (hsome : ∀ name, letzter = some name → ∃ old, buf = snprintf 4 old name) :
    BereichsnameZu letzter (text (ersetzeBereichsname buf)) := by
  cases letzter with
  | none =>
      rw [hnone rfl]
      show text (ersetzeBereichsname (zeros 4)) = ['-']
      decide
  | some name =>
      obtain ⟨old, hbuf⟩ := hsome name rfl
      have htext : text buf = snprintfS 4 name := by rw [hbuf, text_snprintf]
      show if snprintfS 4 name = [] then _ else _
      by_cases hempty : snprintfS 4 name = []
      · have hcons : buf = nul :: old.drop 1 := by rw [hbuf, snprintf, hempty]; rfl
        rw [if_pos hempty, hcons]
        show (text ('-' :: old.drop 1)).head? = some '-'
        rw [text_cons, if_neg (by decide)]
        rfl
      · have heq : ¬ strncmpEq 4 buf [] = true := by
          rw [strncmpEq_iff, htext, text_nil, List.take_nil, List.take_eq_nil_iff]
          simp [hempty]
        rw [if_neg hempty, ersetzeBereichsname, if_neg heq, htext]

/-! ## The search -/

theorem getXmlDatenZurId_bereichsname (document : XmlDoc) (dev : DevTable) :
    BereichsnameZu (letzterName "bereich" (besucht document id))
      (text ((getXmlDatenZurId debug document dev id).dev id).bereichsname) := by
  have hnames := @besucht_bereichsname debug id (strIdOf id) (besucht document id) (beginn dev id)
  have hbeginn : ((beginn dev id).dev id).bereichsname = zeros 4 := by
    simp [beginn, DevTable.put_self]
  rw [getXmlDatenZurId]
  simp only [getDatenZuId_eq, DevTable.put_self]
  refine bereichsnameZu_ersetze (fun hnone => ?_) hnames.2
  rw [hnames.1 hnone, hbeginn]

private def haus : Tag := { name := "haus".toList, props := [] }

/-- What the table says of an id after a search. -/
def eintragen (id : UInt8) (bereichsname : List Char) (sonstige : Bool) (dev : DevTable) :
    DevTable :=
  dev.put id fun d => { d with bereichsname := bereichsname, sonstige := sonstige }

/-- Nothing but `Bereichsname` and `sonstige` of the id has been written, and
`sonstige` only if the id was found. -/
structure Rahmen (dev : DevTable) (id : UInt8) (g : Globals) : Prop where
  dev_eq : g.dev = eintragen id (g.dev id).bereichsname (g.dev id).sonstige dev
  sonstige : g.devInXmlEnthalten = false → (g.dev id).sonstige = (dev id).sonstige

section Rahmen

variable {dev : DevTable} {g : Globals}

/-- A write of `Bereichsname`. -/
theorem Rahmen.bereichsname (h : Rahmen dev id g) {g' : Globals} (f : List Char → List Char)
    (hdev : g'.dev = g.dev.put id fun d => { d with bereichsname := f d.bereichsname })
    (hfound : g'.devInXmlEnthalten = g.devInXmlEnthalten) : Rahmen dev id g' := by
  constructor
  · rw [hdev, h.dev_eq]
    simp [eintragen, DevTable.put]
  · intro hf
    rw [hdev, DevTable.put_self]
    exact h.sonstige (hfound ▸ hf)

theorem Rahmen.sichereNamen (h : Rahmen dev id g) (node : Tag) :
    Rahmen dev id (sichereNamen id node g) := by
  rw [ParseXml.sichereNamen]
  split
  · exact h.bereichsname (fun buf => snprintf 4 buf (percentS (node.xmlGetProp "name"))) rfl rfl
  · split
    · exact ⟨h.dev_eq, h.sonstige⟩
    · exact h

theorem Rahmen.idGefunden (h : Rahmen dev id g) (debug : Bool) (node : Tag) :
    Rahmen dev id (idGefunden debug id node g) := by
  refine ⟨?_, nofun⟩
  simp only [ParseXml.idGefunden]
  rw [h.dev_eq]
  simp [eintragen, DevTable.put]

theorem Rahmen.besuche (h : Rahmen dev id g) (debug : Bool) (strId : List Char)
    (type : NodeType) : Rahmen dev id (besuche debug id strId type g) := by
  cases type with
  | other => exact h
  | element node =>
      rw [ParseXml.besuche]
      split
      · exact (h.sichereNamen node).idGefunden debug node
      · exact h.sichereNamen node

theorem Rahmen.foldl (h : Rahmen dev id g) (debug : Bool) (strId : List Char)
    (nodes : List NodeType) :
    Rahmen dev id (nodes.foldl (fun g type => ParseXml.besuche debug id strId type g) g) := by
  induction nodes generalizing g with
  | nil => exact h
  | cons type nodes ih => exact ih (h.besuche debug strId type)

end Rahmen

theorem getXmlDatenZurId_rahmen (debug : Bool) (document : XmlDoc) (dev : DevTable) (id : UInt8) :
    Rahmen dev id (getXmlDatenZurId debug document dev id) := by
  have hbeginn : Rahmen dev id (beginn dev id) := by
    constructor
    · simp [beginn, eintragen, DevTable.put]
    · intro _
      simp [beginn, DevTable.put_self]
  have hwalk := hbeginn.foldl debug (strIdOf id) (besucht document id)
  rw [← getDatenZuId_eq] at hwalk
  exact hwalk.bereichsname ersetzeBereichsname rfl rfl

/-! ## The search as the gateway uses it -/

/-- What a search leaves of the id. -/
def Globals.xmlDaten (g : Globals) (id : UInt8) : XmlDaten :=
  { bereichsname := (g.dev id).bereichsname
    element :=
      if g.devInXmlEnthalten then some { sonstige := (g.dev id).sonstige, stt := g.stt } else none }

/-- Two searches for an id that have come across the same. -/
structure Gleich (id : UInt8) (g g' : Globals) : Prop where
  bereichsname : (g.dev id).bereichsname = (g'.dev id).bereichsname
  sonstige : g.devInXmlEnthalten = true → (g.dev id).sonstige = (g'.dev id).sonstige
  raumname : g.raumname = g'.raumname
  stt : g.stt = g'.stt
  found : g.devInXmlEnthalten = g'.devInXmlEnthalten

section Gleich

variable {g g' : Globals}

theorem Gleich.sichereNamen (h : Gleich id g g') (node : Tag) :
    Gleich id (sichereNamen id node g) (sichereNamen id node g') := by
  rw [ParseXml.sichereNamen, ParseXml.sichereNamen]
  split
  · constructor
    · simp [setzeBereichsname, DevTable.put_self, h.bereichsname]
    · intro hf
      simpa [setzeBereichsname, DevTable.put_self] using h.sonstige hf
    · exact h.raumname
    · exact h.stt
    · exact h.found
  · split
    · refine ⟨h.bereichsname, h.sonstige, ?_, h.stt, h.found⟩
      simp only [h.raumname]
    · exact h

theorem Gleich.idGefunden (h : Gleich id g g') (debug : Bool) (node : Tag) :
    Gleich id (idGefunden debug id node g) (idGefunden debug id node g') := by
  constructor
  · simp [ParseXml.idGefunden, DevTable.put_self, h.bereichsname]
  · simp [ParseXml.idGefunden, DevTable.put_self]
  · exact h.raumname
  · simp only [ParseXml.idGefunden, h.bereichsname, h.stt]
  · rfl

theorem Gleich.foldl (h : Gleich id g g') (debug : Bool) (strId : List Char)
    (nodes : List NodeType) :
    Gleich id (nodes.foldl (fun g type => besuche debug id strId type g) g)
      (nodes.foldl (fun g type => besuche debug id strId type g) g') := by
  induction nodes generalizing g g' with
  | nil => exact h
  | cons type nodes ih =>
      refine ih ?_
      cases type with
      | other => exact h
      | element node =>
          by_cases hid : node.xmlGetProp "gruppe" = some strId
          · simp only [besuche, if_pos hid]
            exact (h.sichereNamen node).idGefunden debug node
          · simp only [besuche, if_neg hid]
            exact h.sichereNamen node

theorem Gleich.xmlDaten_eq (h : Gleich id g g') : g.xmlDaten id = g'.xmlDaten id := by
  rw [Globals.xmlDaten, Globals.xmlDaten, h.bereichsname, h.found, h.stt]
  cases hf : g.devInXmlEnthalten with
  | true => rw [← h.found, hf, h.sonstige hf]
  | false => rw [← h.found, hf]; rfl

end Gleich

/-- What is found for an id is a matter of the document alone. -/
theorem xmlDaten_eq_of_document (debug : Bool) (document : XmlDoc) (dev dev' : DevTable)
    (id : UInt8) :
    (getXmlDatenZurId debug document dev id).xmlDaten id
      = (getXmlDatenZurId debug document dev' id).xmlDaten id := by
  have hbeginn : Gleich id (beginn dev id) (beginn dev' id) := by
    constructor
    · simp [beginn, DevTable.put_self]
    · nofun
    · rfl
    · rfl
    · rfl
  have hwalk := hbeginn.foldl debug (strIdOf id) (besucht document id)
  rw [← getDatenZuId_eq, ← getDatenZuId_eq] at hwalk
  refine Gleich.xmlDaten_eq ⟨?_, fun hf => ?_, hwalk.raumname, hwalk.stt, hwalk.found⟩
  · simp [getXmlDatenZurId, DevTable.put_self, hwalk.bereichsname]
  · simpa [getXmlDatenZurId, DevTable.put_self] using hwalk.sonstige hf

/-- **The gateway's lookup is this search**, for files that hold what it finds. -/
theorem getXmlDatenZurId_eq_search {files : Files} {document : XmlDoc} {dev : DevTable}
    (h : files.xml id = (getXmlDatenZurId debug document dev id).xmlDaten id) :
    Mqtt.getXmlDatenZurId files dev id
      = ((getXmlDatenZurId debug document dev id).dev,
          if (getXmlDatenZurId debug document dev id).devInXmlEnthalten
          then some (getXmlDatenZurId debug document dev id).stt else none) := by
  have hrahmen := getXmlDatenZurId_rahmen debug document dev id
  have hname : ((getXmlDatenZurId debug document dev id).dev id).bereichsname ≠ [] := by
    intro hnil
    refine (@getXmlDatenZurId_bereichsname debug id document dev).ne_nil ?_
    rw [hnil, text_nil]
  generalize getXmlDatenZurId debug document dev id = g at *
  have hdev := hrahmen.dev_eq
  cases hf : g.devInXmlEnthalten with
  | true =>
      simp only [Mqtt.getXmlDatenZurId, h, Globals.xmlDaten, hf, if_true, if_neg hname]
      rw [hdev]
      simp [eintragen, DevTable.put]
  | false =>
      simp only [Mqtt.getXmlDatenZurId, h, Globals.xmlDaten, hf, if_neg hname]
      rw [hdev, hrahmen.sonstige hf]
      simp [eintragen, DevTable.put]

end OpenHcan.Mqtt.ParseXml

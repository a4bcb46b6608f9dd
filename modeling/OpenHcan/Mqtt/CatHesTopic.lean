import OpenHcan.Lib.Overlay
import OpenHcan.Mqtt.MqttHcan

/-!
# CatHesTopic — from the CAN bus to the broker

`rxFromCb` puts a CAN frame of interest into the ring, `tx2broker` makes topic
and payload of the oldest one (`catHesTopic4Broker`) and publishes them. The
CONFIG_REPLAY messages of the boards describe a device to Home Assistant
(`erzeugeConfigTopicUndPayload`); for that the installation and the
configuration file of the device type are read anew each time.

The XML document and the JSON library are parameters: what the walk over the
document finds for an id, what a configuration file says under a key, and how
the JSON object with the new values is printed. A missing file or key ends the
process. The formatted texts are shorter than their buffers of 4000 bytes.
-/

namespace OpenHcan.Mqtt

open Lib

/-! ## The files -/

/-- The keys that `holeConfigDateiEintrag` knows. -/
inductive Key where
  | tilde
  | statT
  | modeStatT
  | cmdT
  | posT
  | setPosT
  | modeCmdT
  | tempCmdT
deriving DecidableEq, Repr

/-- A configuration file of a device type: the texts under its keys, and the
object as `json_object_to_json_string` prints it with the values put in. -/
structure ConfigDatei where
  eintrag : Key → Option (List Char)
  drucken (uniqueId suggestedArea name tilde : List Char) : List Char

/-- The element with `gruppe` equal to the id: whether its `typ` is
"sonstige", and the `stt` made of it. -/
structure XmlElement where
  sonstige : Bool
  stt : List Char

/-- What `getDatenZuId` leaves of an id: the name of the last `bereich` it
came across, and the element found. -/
structure XmlDaten where
  bereichsname : List Char
  element : Option XmlElement

/-- The installation and the configuration files. -/
structure Files where
  xml : UInt8 → XmlDaten
  json : TeDev → Option ConfigDatei

/-- `getXmlDatenZurId`: the device table, and `stt` if the id is in the
document. -/
def getXmlDatenZurId (files : Files) (dev : DevTable) (id : UInt8) : DevTable × Option (List Char) :=
  let daten := files.xml id
  let bereichsname := if daten.bereichsname = [] then ['-'] else daten.bereichsname
  let dev := dev.put id fun d => { d with bereichsname := bereichsname }
  match daten.element with
  | some element => (dev.put id fun d => { d with sonstige := element.sonstige }, some element.stt)
  | none => (dev, none)

/-- `snprintf(dst, n, "%s", s)` into a zeroed destination. -/
def snprintfS (n : Nat) (s : List Char) : List Char := (text s).take (n - 1)

/-- An entry without its "~"; `bisPos` is its length. -/
def ohneTilde (size : Nat) (strQuelle : List Char) : List Char :=
  snprintfS (strnlen strQuelle size + 1) (text strQuelle).tail

/-- The entry of "~" without its "/id". `bisPos` wraps around if the text is
shorter than that. -/
def ohneId (strQuelle : List Char) : List Char :=
  snprintfS ((sizeSub (strnlen strQuelle 35) 3 + 1) % 2 ^ 64) strQuelle

/-- `holeConfigDateiEintrag` -/
def holeConfigDateiEintrag (datei : ConfigDatei) (eDev : TeDev) (e : ConfigTopic) (key : Key) :
    Option ConfigTopic := do
  let strQuelle ← datei.eintrag key
  match key with
  | .tilde => return { e with tildeOhneId := ohneId strQuelle }
  | .statT => return { e with statT := ohneTilde 30 strQuelle }
  | .modeStatT =>
      return if eDev = .climate then { e with statT := ohneTilde 30 strQuelle } else e
  | .cmdT => return { e with cmdT := ohneTilde 20 strQuelle }
  | .posT => return { e with posT := ohneTilde 30 strQuelle }
  | .setPosT => return { e with setPosT := ohneTilde 30 strQuelle }
  | .modeCmdT | .tempCmdT => return e

/-- `holeConfigDateiEintragClimate` -/
def holeConfigDateiEintragClimate (datei : ConfigDatei) (e : ConfigTopicClimate) (key : Key) :
    Option ConfigTopicClimate := do
  let strQuelle ← datei.eintrag key
  match key with
  | .modeCmdT => return { e with modeCmdT := ohneTilde 30 strQuelle }
  | .tempCmdT => return { e with tempCmdT := ohneTilde 30 strQuelle }
  | _ => return e

/-- The keys that are read for a device type. -/
def configKeys : TeDev → List Key
  | .tempsensor | .reedkontakt => [.tilde, .statT]
  | .light | .switch => [.tilde, .statT, .cmdT]
  | .cover => [.tilde, .statT, .cmdT, .posT, .setPosT]
  | .climate => [.tilde, .modeStatT]

/-- The same in the file of the heating. -/
def configKeysClimate : TeDev → List Key
  | .climate => [.modeCmdT, .tempCmdT]
  | _ => []

/-! ## Topics and payloads -/

/-- Topic and payload handed to `publishMqttMsg`, if any. -/
abbrev Published := Option (List Char × List Char)

/-- `"%s/%u%s"` with the tilde of a device type, an id and a suffix. -/
def topicMitId (tilde : List Char) (id : UInt8) (suffix : List Char) : List Char :=
  text tilde ++ '/' :: printU id.toNat ++ text suffix

/-- `(float)((hi<<8)|lo) / 16.0` -/
def tempWert (hi lo : UInt8) : CFloat := .sixteenths (hi.toNat * 256 + lo.toNat)

/-- `erzeugeConfigTopicUndPayload`. `none` is the end of the process. -/
def erzeugeConfigTopicUndPayload (files : Files) (ha : Ha) (eDev : TeDev) (id : UInt8) :
    Option (Ha × Published) :=
  match getXmlDatenZurId files ha.dev id with
  | (dev, none) => some ({ ha with dev := dev }, none)
  | (dev, some stt) => do
      -- lights with typ "sonstige" are shown as switches
      let eDev := if eDev = .light && (dev id).sonstige then .switch else eDev
      let datei ← files.json eDev
      let e ← (configKeys eDev).foldlM (holeConfigDateiEintrag datei eDev) (ha.strDateiEintrag eDev)
      let climate ← (configKeysClimate eDev).foldlM (holeConfigDateiEintragClimate datei)
        ha.strDateiEintragClimate
      let bereichsname := text (dev id).bereichsname
      let strTopic := "homeassistant/".toList ++ (text e.tildeOhneId).drop 3 ++ '/' ::
        bereichsname ++ '/' :: printU id.toNat ++ "/config".toList
      let strTopicUndId := (text e.tildeOhneId ++ '/' :: printU id.toNat).take 34
      let strPayload := datei.drucken (printU id.toNat) bereichsname (text stt) strTopicUndId
      return ({ ha with
        dev := dev
        strDateiEintrag := Function.update ha.strDateiEintrag eDev e
        strDateiEintragClimate := climate }, some (strTopic, strPayload))

/-- `{"mode":"%s", "target_temp":"%.nf", "current_temp":"%.1f"}` -/
def heizungPayload (targetDigits : Nat) (d : HcanInstallation) : List Char :=
  "\x7b\"mode\":\"".toList ++ text d.mode ++ "\", \"target_temp\":\"".toList ++
    d.tSoll.print targetDigits ++ "\", \"current_temp\":\"".toList ++ d.tIst.print 1 ++
    "\"\x7d".toList

/-- The state payload of a shutter without position topic. -/
def rolladenState (pos : UInt8) : List Char :=
  if pos = 200 then "closing".toList
  else if pos = 201 then "opening".toList
  else if pos = 202 then "stopped".toList
  else if pos = 100 then "open".toList
  else "closed".toList

/-- The temperature sensor belongs to no radiator and is not in the UI yet. -/
def Tempsensor.neu (s : Tempsensor) : Bool := s.heizkoerperId == 255 && !s.uiElement

/-- The cases 1WIRE_TEMPERATURE and 1WIRE_TEMPERATURE_REPLAY. -/
def temperatur4Broker (files : Files) (ha : Ha) (data : Nat → UInt8) : Option (Ha × Published) :=
  let id := data 2
  if (ha.dev id).tempSensor.neu then
    let dev := ha.dev.put id fun d => { d with tempSensor := { d.tempSensor with uiElement := true } }
    erzeugeConfigTopicUndPayload files { ha with dev := dev } .tempsensor id
  else
    let dev := ha.dev.put id fun d => { d with tIst := tempWert (data 3) (data 4) }
    let heizkoerperId := (dev id).tempSensor.heizkoerperId
    if heizkoerperId = 255 then
      let e := ha.strDateiEintrag .tempsensor
      some ({ ha with dev := dev }, some (topicMitId e.tildeOhneId id e.statT,
        "\x7b\"temperature\": ".toList ++ (dev id).tIst.print 1 ++ "\x7d".toList))
    else
      let tIst := (dev id).tIst
      let dev := dev.put heizkoerperId fun d => { d with tIst := tIst }
      let e := ha.strDateiEintrag .climate
      some ({ ha with dev := dev }, some (topicMitId e.tildeOhneId heizkoerperId e.statT,
        heizungPayload 2 (dev heizkoerperId)))

/-- `catHesTopic4Broker`: the state afterwards and what is to be published. -/
def catHesTopic4Broker (files : Files) (ha : Ha) (cf : CanFrame) : Option (Ha × Published) :=
  if !ha.haOnline then some (ha, none)
  else
    let id := cf.data 2
    match topic4Broker (cf.data 1) with
    | some .powerGroupConfigReplay => erzeugeConfigTopicUndPayload files ha .light id
    | some .powerGroupStateReplay | some .powerGroupStateInfo =>
        let e := ha.strDateiEintrag (if (ha.dev id).sonstige then .switch else .light)
        some (ha, some (topicMitId e.tildeOhneId id e.statT,
          if cf.data 3 = 0 then "OFF".toList else "ON".toList))
    -- a sensor is described when its first temperature comes, after the radiators
    | some .oneWireTemperatureConfigReplay => some (ha, none)
    | some .oneWireTemperature | some .oneWireTemperatureReplay => temperatur4Broker files ha cf.data
    | some .reedkontaktConfigReplay => erzeugeConfigTopicUndPayload files ha .reedkontakt id
    | some .reedkontaktStateReplay | some .reedkontaktStateChange =>
        let e := ha.strDateiEintrag .reedkontakt
        some (ha, some (topicMitId e.tildeOhneId id e.statT,
          if cf.data 3 = 0 then "CLOSE".toList else "OPEN".toList))
    | some .heizungConfigReplay =>
        let dev := ha.dev.put (cf.data 3) fun d =>
          { d with tempSensor := { d.tempSensor with heizkoerperId := id } }
        erzeugeConfigTopicUndPayload files { ha with dev := dev } .climate id
    | some .heizungModeOffDetails =>
        let e := ha.strDateiEintrag .climate
        let dev := ha.dev.put id fun d => { d with mode := "off".toList }
        some ({ ha with dev := dev }, some (topicMitId e.tildeOhneId id e.statT,
          "\x7b\"mode\":\"".toList ++ text (dev id).mode ++ "\"\x7d".toList))
    | some .heizungModeThermostatDetails =>
        let e := ha.strDateiEintrag .climate
        let tSoll := tempWert (cf.data 3) (cf.data 4)
        let mode := if tSoll.greater 10 then "heat".toList else "cool".toList
        let dev := ha.dev.put id fun d => { d with tSoll := tSoll, mode := mode }
        some ({ ha with dev := dev }, some (topicMitId e.tildeOhneId id e.statT,
          heizungPayload 2 (dev id)))
    | some .heizungModeAutomatikDetails =>
        let e := ha.strDateiEintrag .climate
        let dev := ha.dev.put id fun d =>
          { d with
            tSoll := tempWert (cf.data 3) (cf.data 4)
            tIst := tempWert (cf.data 6) (cf.data 7)
            mode := "auto".toList }
        some ({ ha with dev := dev }, some (topicMitId e.tildeOhneId id e.statT,
          heizungPayload 1 (dev id)))
    | some .heizungTistReplay =>
        let e := ha.strDateiEintrag .climate
        let dev := ha.dev.put id fun d => { d with tIst := tempWert (cf.data 3) (cf.data 4) }
        some ({ ha with dev := dev }, some (topicMitId e.tildeOhneId id e.statT,
          heizungPayload 2 (dev id)))
    | some .rolladenConfigReplay => erzeugeConfigTopicUndPayload files ha .cover id
    | some .rolladenPositionReplay | some .rolladenPositionChangedInfo =>
        let e := ha.strDateiEintrag .cover
        if strnlen e.posT 30 ≠ 0 then
          some (ha, some (topicMitId e.tildeOhneId id e.posT,
            "\x7b\"position\": ".toList ++ printU (cf.data 3).toNat ++ "\x7d".toList))
        else some (ha, some (topicMitId e.tildeOhneId id e.statT, rolladenState (cf.data 3)))
    | some .heizungModeManualDetails | none => some (ha, none)

/-! ## The ring -/

/-- `get_proto` -/
def getProto (extid : UInt32) : UInt32 := (extid >>> 20) &&& 0x07

/-- `msgOfInterest4broker` -/
def msgOfInterest4broker (cf : CanFrame) : Bool :=
  decide (2 ≤ cf.canDlc) && getProto cf.canId == 1 && cf.data 0 == 5 &&
    (topic4Broker (cf.data 1)).isSome

/-- `memcpy(slot, data, dlc)`: what lies behind in the slot stays. -/
def copyData (dlc : UInt8) (data old : Nat → UInt8) : Nat → UInt8 := overlay dlc.toNat data old

/-- `rxFromCb` with the received frame. -/
def rxFromCb (r : Ring) (canFrame : CanFrame) : Ring :=
  if msgOfInterest4broker canFrame then
    { r with
      buf := Function.update r.buf r.wIdx
        { canId := canFrame.canId &&& canEffMask
          canDlc := canFrame.canDlc
          data := copyData canFrame.canDlc canFrame.data (r.buf r.wIdx).data }
      wIdx := nextIdx r.wIdx }
  else r

/-- `tx2broker`: an empty payload is not published. -/
def tx2broker (files : Files) (g : Gateway) : Option (Gateway × Published) := do
  let (ha, published) ← catHesTopic4Broker files g.ha (g.canRx.buf g.canRx.rIdx)
  return ({ g with ha := ha, canRx := { g.canRx with rIdx := nextIdx g.canRx.rIdx } },
    published.filter fun (_, strPayload) => !strPayload.isEmpty)

/-- The main loop with a frame to read: it is received, then the oldest
frame of the ring, if there is one, goes to the broker. -/
def canTurn (files : Files) (g : Gateway) (canFrame : CanFrame) : Option (Gateway × Published) :=
  let g := { g with canRx := rxFromCb g.canRx canFrame }
  if g.canRx.waiting then tx2broker files g else some (g, none)

end OpenHcan.Mqtt

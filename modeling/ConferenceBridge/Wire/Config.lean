import ConferenceBridge.Conference.Config
import ConferenceBridge.Wire.Scalar

namespace ConferenceBridge.ConferenceConfig

/-! The JSON form of the settings of conferences. -/

open Json (Decoded Dialect RecordField)

def toJson (config : ConferenceConfig) : Json :=
  .object [("ereignis_kanal_groesse", .ofNat config.eventCapacity.toNat),
    ("host_kanal_groesse", .ofNat config.hostCapacity.toNat),
    ("initialer_teilnehmer_zustand", config.initialState.toJson)]

def fields (dialect : Dialect) : List (RecordField ConferenceConfig) :=
  [.of "ereignis_kanal_groesse" Json.asUInt64 fun eventCapacity config =>
      { config with eventCapacity },
    .of "host_kanal_groesse" Json.asUInt64 fun hostCapacity config =>
      { config with hostCapacity },
    .of "initialer_teilnehmer_zustand" (ConnectionState.ofJson dialect) fun initialState config =>
      { config with initialState }]

def ofJson (dialect : Dialect) : Json → Decoded ConferenceConfig :=
  Json.asRecord dialect (fields dialect) {}

end ConferenceBridge.ConferenceConfig

import LoomClient.Transport.RetryBudget

namespace LoomClient.Operations

inductive Method where
  | get
  | put
  | post
  | patch
  | delete
deriving DecidableEq

def Method.text : Method → String
  | .get => "GET"
  | .put => "PUT"
  | .post => "POST"
  | .patch => "PATCH"
  | .delete => "DELETE"

-- A fixed text, the `quote(..., safe='')` of an argument, an argument as it is, or an integer.
inductive Piece where
  | lit (text : String)
  | quoted (name : String)
  | bare (name : String)
  | number (name : String)
deriving DecidableEq

-- Downloads and uploads are never retried.
inductive Via where
  | request (allowRetry : Option Bool)
  | requestBytes
  | requestUpload
deriving DecidableEq

structure Operation where
  method : Method
  path : List Piece
  via : Via
deriving DecidableEq

def request (method : Method) (path : List Piece) (allowRetry : Option Bool) : Operation :=
  ⟨method,path,.request allowRetry⟩

open Piece

namespace AlarmOperations

def getZoneStatuses : Operation := request .get [lit "alarm",lit "state"] none
def listPanels : Operation := request .get [lit "alarm",lit "panels"] none
def getZoneReadiness : Operation := request .get [lit "alarm",lit "zones",quoted "zone_id",lit "readiness"] none
def listZones : Operation := request .get [lit "alarm",lit "zones"] none
def getZone : Operation := request .get [lit "alarm",lit "zones",quoted "zone_id"] none
def createZone : Operation := request .post [lit "alarm",lit "zones"] (some false)
def updateZone : Operation := request .put [lit "alarm",lit "zones",quoted "zone_id"] (some true)
def deleteZone : Operation := request .delete [lit "alarm",lit "zones",quoted "zone_id"] none
def listZoneSensors : Operation := request .get [lit "alarm",lit "zones",quoted "zone_id",lit "sensors"] none
def replaceZoneSensors : Operation := request .put [lit "alarm",lit "zones",quoted "zone_id",lit "sensors"] (some true)
def listZoneOutputs : Operation := request .get [lit "alarm",lit "zones",quoted "zone_id",lit "outputs"] none
def replaceZoneOutputs : Operation := request .put [lit "alarm",lit "zones",quoted "zone_id",lit "outputs"] (some true)
def listOutputCandidates : Operation := request .get [lit "alarm",lit "output-candidates"] none
def listRemoteKeyCandidates : Operation := request .get [lit "alarm",lit "remote-key-candidates"] none
def listSensorCandidates : Operation := request .get [lit "alarm",lit "sensor-candidates"] none
def listIncidents : Operation := request .get [lit "alarm",lit "incidents"] none
def getIncident : Operation := request .get [lit "alarm",lit "incidents",quoted "incident_id"] none
def armZone : Operation := request .post [lit "alarm",lit "zones",quoted "zone_id",lit "arm"] (some false)
def disarmZone : Operation := request .post [lit "alarm",lit "zones",quoted "zone_id",lit "disarm"] (some false)
def silenceZone : Operation := request .post [lit "alarm",lit "zones",quoted "zone_id",lit "silence"] (some false)
def acknowledgeZone : Operation := request .post [lit "alarm",lit "zones",quoted "zone_id",lit "acknowledge"] (some false)
def silenceAll : Operation := request .post [lit "alarm",lit "silence-all"] (some false)
def listTriggeredMotion : Operation := request .get [lit "alarm",lit "triggered-motion"] none
def resetZoneMotion : Operation := request .post [lit "alarm",lit "zones",quoted "zone_id",lit "reset-motion"] (some false)
def resetAllMotion : Operation := request .post [lit "alarm",lit "reset-motion"] (some false)
def listJournal : Operation := request .get [lit "alarm",lit "journal"] none
def startWalkTest : Operation :=
  request .post [lit "alarm",lit "zones",quoted "zone_id",lit "walktest",lit "start"] (some false)
def stopWalkTest : Operation :=
  request .post [lit "alarm",lit "zones",quoted "zone_id",lit "walktest",lit "stop"] (some true)
def getWalkTestStatus : Operation := request .get [lit "alarm",lit "zones",quoted "zone_id",lit "walktest"] none
def testOutput : Operation := request .post [lit "alarm",lit "outputs",quoted "output_id",lit "test"] (some false)
def listCodes : Operation := request .get [lit "alarm",lit "codes"] none
def getCode : Operation := request .get [lit "alarm",lit "codes",quoted "code_id"] none
def createCode : Operation := request .post [lit "alarm",lit "codes"] (some false)
def updateCode : Operation := request .put [lit "alarm",lit "codes",quoted "code_id"] (some true)
def deleteCode : Operation := request .delete [lit "alarm",lit "codes",quoted "code_id"] none

def all : List Operation :=
  [getZoneStatuses,listPanels,getZoneReadiness,listZones,getZone,createZone,updateZone,deleteZone,listZoneSensors,
    replaceZoneSensors,listZoneOutputs,replaceZoneOutputs,listOutputCandidates,listRemoteKeyCandidates,
    listSensorCandidates,listIncidents,getIncident,armZone,disarmZone,silenceZone,acknowledgeZone,silenceAll,
    listTriggeredMotion,resetZoneMotion,resetAllMotion,listJournal,startWalkTest,stopWalkTest,getWalkTestStatus,
    testOutput,listCodes,getCode,createCode,updateCode,deleteCode]

end AlarmOperations

namespace BackupOperations

def triggerBackup : Operation := request .post [lit "backups"] (some false)
def listBackups : Operation := request .get [lit "backups"] none
def getStorageInfo : Operation := request .get [lit "backups",lit "storage"] none
def downloadBackup : Operation := ⟨.get,[lit "backups",bare "backup_id",lit "download"],.requestBytes⟩
def uploadBackup : Operation := ⟨.post,[lit "backups",lit "upload"],.requestUpload⟩
def deleteBackup : Operation := request .delete [lit "backups",bare "backup_id"] none
def restoreBackup : Operation := request .post [lit "backups",bare "backup_id",lit "restore"] (some false)

def all : List Operation :=
  [triggerBackup,listBackups,getStorageInfo,downloadBackup,uploadBackup,deleteBackup,restoreBackup]

end BackupOperations

namespace CustomDataPointsOperations

def listForDevice : Operation := request .get [lit "devices",bare "address",lit "cdps"] none
def get : Operation := request .get [lit "devices",bare "address",lit "cdps",quoted "name"] none
def invoke : Operation :=
  request .post [lit "devices",bare "address",lit "cdps",quoted "name",quoted "operation"] (some false)

def all : List Operation :=
  [listForDevice,get,invoke]

end CustomDataPointsOperations

namespace DataPointsOperations

def setValue : Operation :=
  request .put [lit "devices",bare "address",lit "channels",number "channel",lit "data-points",bare "parameter",
    lit "value"] (some true)
def batchRead : Operation := request .post [lit "devices",lit "values:batch"] (some true)
def getParamset : Operation := request .get [lit "devices",bare "address",lit "paramsets",bare "paramset_key"] none
def putParamset : Operation := request .put [lit "devices",bare "address",lit "paramsets",bare "paramset_key"] (some true)

def all : List Operation :=
  [setValue,batchRead,getParamset,putParamset]

end DataPointsOperations

namespace DevicesOperations

def listDevices : Operation := request .get [lit "devices"] none
def getDeviceDetail : Operation := request .get [lit "devices",bare "address"] none
def listChannels : Operation := request .get [lit "devices",bare "address",lit "channels"] none
def listDataPoints : Operation :=
  request .get [lit "devices",bare "address",lit "channels",number "channel",lit "data-points"] none
def getDataPoint : Operation :=
  request .get [lit "devices",bare "address",lit "channels",number "channel",lit "data-points",bare "parameter"] none
def listCalculatedDataPoints : Operation :=
  request .get [lit "devices",bare "address",lit "channels",number "channel",lit "calc-dps"] none
def getCalculatedDataPoint : Operation :=
  request .get [lit "devices",bare "address",lit "channels",number "channel",lit "calc-dps",bare "name"] none
def refreshAll : Operation := request .post [lit "devices",lit "refresh"] none
def reloadDeviceConfig : Operation := request .post [lit "devices",bare "address",lit "reload"] none
def reloadChannelConfig : Operation :=
  request .post [lit "devices",bare "address",lit "channels",number "channel",lit "reload"] none
def exportDeviceDefinition : Operation := ⟨.get,[lit "devices",bare "address",lit "export-definition"],.requestBytes⟩
def getDeviceIcon : Operation := ⟨.get,[lit "devices",bare "address",lit "icon"],.requestBytes⟩
def patchDevice : Operation := request .patch [lit "devices",bare "address"] (some false)
def deleteDevice : Operation := request .delete [lit "devices",bare "address"] none
def updateFirmware : Operation := request .post [lit "devices",bare "address",lit "firmware",lit "update"] (some false)
def refreshFirmwareData : Operation := request .post [lit "devices",lit "firmware",lit "refresh"] (some false)
def acceptDevice : Operation := request .post [lit "devices",bare "address",lit "accept"] (some false)
def releaseDevice : Operation := request .post [lit "devices",bare "address",lit "release"] (some false)
def getUiSchema : Operation :=
  request .get [lit "devices",bare "address",lit "channels",number "channel",lit "ui-schema"] none
def exportChannelConfig : Operation :=
  request .get [lit "devices",bare "address",lit "channels",number "channel",lit "config",lit "export"] none
def importChannelConfig : Operation :=
  request .post [lit "devices",bare "address",lit "channels",number "channel",lit "config",lit "import"] (some false)

def all : List Operation :=
  [listDevices,getDeviceDetail,listChannels,listDataPoints,getDataPoint,listCalculatedDataPoints,
    getCalculatedDataPoint,refreshAll,reloadDeviceConfig,reloadChannelConfig,exportDeviceDefinition,getDeviceIcon,
    patchDevice,deleteDevice,updateFirmware,refreshFirmwareData,acceptDevice,releaseDevice,getUiSchema,
    exportChannelConfig,importChannelConfig]

end DevicesOperations

namespace DiagnosticsOperations

def getDiagnostics : Operation := request .get [lit "diagnostics"] none
def getWiring : Operation := request .get [lit "diagnostics",lit "wiring"] none
def getLogLevel : Operation := request .get [lit "diagnostics",lit "log-level"] none
def setLogLevel : Operation := request .put [lit "diagnostics",lit "log-level"] (some true)
def getLogLevels : Operation := request .get [lit "diagnostics",lit "log-levels"] none
def setLogLevelOverride : Operation := request .put [lit "diagnostics",lit "log-levels",bare "path"] (some true)
def removeLogLevelOverride : Operation := request .delete [lit "diagnostics",lit "log-levels",bare "path"] none
def getLogs : Operation := request .get [lit "diagnostics",lit "logs"] none
def startCapture : Operation := request .post [lit "diagnostics",lit "capture"] (some false)
def listCaptures : Operation := request .get [lit "diagnostics",lit "capture"] none
def getCapture : Operation := request .get [lit "diagnostics",lit "capture",bare "capture_id"] none
def stopCapture : Operation := request .post [lit "diagnostics",lit "capture",bare "capture_id",lit "stop"] (some false)
def downloadCapture : Operation :=
  ⟨.get,[lit "diagnostics",lit "capture",bare "capture_id",lit "download"],.requestBytes⟩
def startRpcRecording : Operation := request .post [lit "diagnostics",lit "rpc-recording"] (some false)
def listRpcRecordings : Operation := request .get [lit "diagnostics",lit "rpc-recording"] none
def stopRpcRecording : Operation := request .post [lit "diagnostics",lit "rpc-recording",lit "stop"] (some false)
def downloadRpcRecording : Operation :=
  ⟨.get,[lit "diagnostics",lit "rpc-recording",bare "central",lit "download"],.requestBytes⟩
def clearCache : Operation := request .post [lit "admin",lit "cache",lit "clear"] (some false)
def clearIncidents : Operation := request .delete [lit "incidents"] (some true)
def listIncidents : Operation := request .get [lit "incidents"] none
def getMetrics : Operation := ⟨.get,[lit "metrics"],.requestBytes⟩
def getValuesCacheStats : Operation := request .get [lit "admin",lit "values-cache",lit "stats"] none
def resetValuesCache : Operation := request .post [lit "admin",lit "values-cache",lit "reset"] (some false)
def resetDeviceValuesCache : Operation :=
  request .post [lit "devices",bare "address",lit "values-cache",lit "reset"] (some false)
def reloadMqtt : Operation := request .post [lit "admin",lit "mqtt",lit "reload"] (some false)
def listAudit : Operation := request .get [lit "audit"] none

def all : List Operation :=
  [getDiagnostics,getWiring,getLogLevel,setLogLevel,getLogLevels,setLogLevelOverride,removeLogLevelOverride,getLogs,
    startCapture,listCaptures,getCapture,stopCapture,downloadCapture,startRpcRecording,listRpcRecordings,
    stopRpcRecording,downloadRpcRecording,clearCache,clearIncidents,listIncidents,getMetrics,getValuesCacheStats,
    resetValuesCache,resetDeviceValuesCache,reloadMqtt,listAudit]

end DiagnosticsOperations

namespace HubOperations

def listPrograms : Operation := request .get [lit "programs"] none
def getProgram : Operation := request .get [lit "programs",quoted "program_id"] none
def executeProgram : Operation := request .post [lit "programs",bare "program_id",lit "execute"] (some false)
def setProgramEnabled : Operation := request .patch [lit "programs",bare "program_id"] (some true)
def listSysvars : Operation := request .get [lit "sysvars"] none
def createSysvar : Operation := request .post [lit "sysvars"] (some false)
def updateSysvarMetadata : Operation := request .patch [lit "sysvars",quoted "name"] (some true)
def getSysvar : Operation := request .get [lit "sysvars",quoted "name"] none
def setSysvar : Operation := request .put [lit "sysvars",quoted "name"] (some true)
def deleteSysvar : Operation := request .delete [lit "sysvars",quoted "name"] none
def fetchSystemVariables : Operation := request .post [lit "sysvars",lit "fetch"] (some false)
def listAlarmMessages : Operation := request .get [lit "alarm-messages"] none
def ackAlarmMessage : Operation := request .post [lit "alarm-messages",bare "message_id",lit "ack"] (some true)
def listServiceMessages : Operation := request .get [lit "service-messages"] none
def ackServiceMessage : Operation := request .post [lit "service-messages",bare "message_id",lit "ack"] (some true)
def listRooms : Operation := request .get [lit "rooms"] none
def listFunctions : Operation := request .get [lit "functions"] none
def listAreas : Operation := request .get [lit "areas"] none
def createArea : Operation := request .post [lit "areas"] (some false)
def updateArea : Operation := request .put [lit "areas",quoted "area_id"] (some true)
def deleteArea : Operation := request .delete [lit "areas",quoted "area_id"] none
def replaceAreaRooms : Operation := request .put [lit "areas",quoted "area_id",lit "rooms"] (some true)
def listInbox : Operation := request .get [lit "inbox"] none
def listInboxDevices : Operation := request .get [lit "inbox"] none
def listInstallModeInterfaces : Operation := request .get [lit "install-mode",lit "interfaces"] none
def setInstallModeInterface : Operation := request .post [lit "install-mode",lit "interfaces"] (some false)

def all : List Operation :=
  [listPrograms,getProgram,executeProgram,setProgramEnabled,listSysvars,createSysvar,updateSysvarMetadata,getSysvar,
    setSysvar,deleteSysvar,fetchSystemVariables,listAlarmMessages,ackAlarmMessage,listServiceMessages,
    ackServiceMessage,listRooms,listFunctions,listAreas,createArea,updateArea,deleteArea,replaceAreaRooms,listInbox,
    listInboxDevices,listInstallModeInterfaces,setInstallModeInterface]

end HubOperations

namespace I18nOperations

def getEntityNames : Operation := request .get [lit "i18n",lit "entities"] none

def all : List Operation :=
  [getEntityNames]

end I18nOperations

namespace LinksOperations

def listLinks : Operation := request .get [lit "devices",bare "address",lit "links"] none
def addLink : Operation := request .post [lit "devices",bare "address",lit "links"] (some false)
def removeLink : Operation := request .delete [lit "devices",bare "address",lit "links"] (some true)
def getLinkParamset : Operation := request .get [lit "devices",bare "address",lit "link-ps",bare "peer"] none
def putLinkParamset : Operation := request .put [lit "devices",bare "address",lit "link-ps",bare "peer"] (some true)
def linkableChannels : Operation :=
  request .get [lit "devices",bare "address",lit "channels",number "channel",lit "linkable-channels"] none
def getCentralLinksStatus : Operation := request .get [lit "devices",bare "address",lit "central-links"] none
def enableCentralLinks : Operation := request .post [lit "devices",bare "address",lit "central-links"] (some false)
def disableCentralLinks : Operation := request .delete [lit "devices",bare "address",lit "central-links"] (some true)

def all : List Operation :=
  [listLinks,addLink,removeLink,getLinkParamset,putLinkParamset,linkableChannels,getCentralLinksStatus,
    enableCentralLinks,disableCentralLinks]

end LinksOperations

-- A profile is copied from the channel that `rpartition` finds in the address of its source.
namespace SchedulesOperations

def getChannelWeekProfile : Operation :=
  request .get [lit "devices",bare "address",lit "channels",number "channel",lit "week_profile"] none
def getChannelSchedule : Operation :=
  request .get [lit "devices",bare "address",lit "channels",number "channel",lit "schedule"] none
def putChannelSchedule : Operation :=
  request .put [lit "devices",bare "address",lit "channels",number "channel",lit "schedule"] (some true)
def setChannelActiveProfile : Operation :=
  request .post [lit "devices",bare "address",lit "channels",number "channel",lit "schedule",
    lit "active-profile"] (some false)
def setChannelLock : Operation :=
  request .put [lit "devices",bare "address",lit "channels",number "channel",lit "week_profile",lit "channel-locks",
    bare "key"] (some true)
def getDeviceSchedule : Operation := request .get [lit "devices",bare "address",lit "schedule"] none
def putDeviceSchedule : Operation := request .put [lit "devices",bare "address",lit "schedule"] (some true)
def setDeviceActiveProfile : Operation :=
  request .post [lit "devices",bare "address",lit "schedule",lit "active-profile"] (some false)
def copySchedule : Operation := request .post [lit "devices",bare "src_address",lit "schedules",lit "copy"] (some false)
def copyClimateProfile : Operation :=
  request .post [lit "devices",bare "device_address",lit "channels",bare "channel",lit "week_profile",
    lit "copy"] (some false)

def all : List Operation :=
  [getChannelWeekProfile,getChannelSchedule,putChannelSchedule,setChannelActiveProfile,setChannelLock,
    getDeviceSchedule,putDeviceSchedule,setDeviceActiveProfile,copySchedule,copyClimateProfile]

end SchedulesOperations

namespace SecurityOperations

def getSnapshot : Operation := request .get [lit "security"] none
def getClass : Operation := request .get [lit "security",lit "classes",quoted "security_class"] none
def listSources : Operation := request .get [lit "security",lit "sources"] none
def setSourceOverride : Operation := request .put [lit "security",lit "sources",quoted "ref"] (some true)
def listFaults : Operation := request .get [lit "security",lit "faults"] none
def acknowledgeFault : Operation :=
  request .post [lit "security",lit "faults",quoted "fault_id",lit "acknowledge"] (some false)

def all : List Operation :=
  [getSnapshot,getClass,listSources,setSourceOverride,listFaults,acknowledgeFault]

end SecurityOperations

namespace SessionsOperations

def acquire : Operation := request .post [lit "sessions",lit "edit"] (some false)
def release : Operation := request .delete [lit "sessions",lit "edit"] none
def heartbeat : Operation := request .post [lit "sessions",lit "edit",lit "heartbeat"] (some false)
def takeOver : Operation := request .post [lit "sessions",lit "edit",lit "take-over"] (some false)

def all : List Operation :=
  [acquire,release,heartbeat,takeOver]

end SessionsOperations

namespace SystemOperations

def getInfo : Operation := request .get [lit "info"] none
def getHealth : Operation := request .get [lit "health"] none
def getDiagnostics : Operation := request .get [lit "diagnostics"] none
def getSnapshot : Operation := request .get [lit "snapshot"] none
def listInterfaces : Operation := request .get [lit "interfaces"] none
def reconnectInterface : Operation := request .post [lit "interfaces",bare "interface_id",lit "reconnect"] (some false)
def getSystemUpdate : Operation := request .get [lit "system",lit "update"] none
def installSystemUpdate : Operation := request .post [lit "system",lit "update",lit "install"] (some false)
def getAddonUpdateStatus : Operation := request .get [lit "system",lit "addon-update"] none
def checkAddonUpdate : Operation := request .post [lit "system",lit "addon-update",lit "check"] (some false)
def installAddonUpdate : Operation := request .post [lit "system",lit "addon-update",lit "install"] (some false)
def getHubMetrics : Operation := request .get [lit "system",lit "metrics"] none
def getHubDataPoints : Operation := request .get [lit "hub",lit "data-points"] none
def listSystemCcus : Operation := request .get [lit "system",lit "ccu"] none
def rebootCcu : Operation := request .post [lit "system",lit "ccu",quoted "central",lit "reboot"] (some false)
def poweroffCcu : Operation := request .post [lit "system",lit "ccu",quoted "central",lit "poweroff"] (some false)
def restartCcuSafeMode : Operation := request .post [lit "system",lit "ccu",quoted "central",lit "safe-mode"] (some false)
def restartCcuRecoveryMode : Operation :=
  request .post [lit "system",lit "ccu",quoted "central",lit "recovery-mode"] (some false)
def setCcuPosition : Operation := request .put [lit "system",lit "ccu",quoted "central",lit "position"] (some true)
def getSystemStatus : Operation := request .get [lit "system",lit "status"] none
def restart : Operation := request .post [lit "system",lit "restart"] (some false)
def getStartupCapture : Operation := request .get [lit "system",lit "startup-capture"] none
def setStartupCapture : Operation := request .put [lit "system",lit "startup-capture"] (some true)

def all : List Operation :=
  [getInfo,getHealth,getDiagnostics,getSnapshot,listInterfaces,reconnectInterface,getSystemUpdate,installSystemUpdate,
    getAddonUpdateStatus,checkAddonUpdate,installAddonUpdate,getHubMetrics,getHubDataPoints,listSystemCcus,rebootCcu,
    poweroffCcu,restartCcuSafeMode,restartCcuRecoveryMode,setCcuPosition,getSystemStatus,restart,getStartupCapture,
    setStartupCapture]

end SystemOperations

namespace VisibilityOperations

def getUnignore : Operation := request .get [lit "visibility",lit "unignore"] none
def putUnignore : Operation := request .put [lit "visibility",lit "unignore"] (some true)
def getUnignoreCandidates : Operation := request .get [lit "visibility",lit "unignore",lit "candidates"] none

def all : List Operation :=
  [getUnignore,putUnignore,getUnignoreCandidates]

end VisibilityOperations

namespace WarningsOperations

def listWarnings : Operation := request .get [lit "warnings"] none
def silenceWarning : Operation := request .put [lit "warnings",quoted "warning_id",lit "silence"] (some true)
def unsilenceWarning : Operation := request .delete [lit "warnings",quoted "warning_id",lit "silence"] (some true)

def all : List Operation :=
  [listWarnings,silenceWarning,unsilenceWarning]

end WarningsOperations

def operations : List Operation :=
  AlarmOperations.all ++ BackupOperations.all ++ CustomDataPointsOperations.all ++ DataPointsOperations.all ++
    DevicesOperations.all ++ DiagnosticsOperations.all ++ HubOperations.all ++ I18nOperations.all ++
    LinksOperations.all ++ SchedulesOperations.all ++ SecurityOperations.all ++ SessionsOperations.all ++
    SystemOperations.all ++ VisibilityOperations.all ++ WarningsOperations.all

end LoomClient.Operations

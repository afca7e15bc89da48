/-!
# Names of pictographs

The names of notations, mathematical letters and pictographs from U+1CF00 on.
`CharacterName.find?` says how the lines are read.
-/

namespace SceneRender.Script.CharacterName

/-- The names from U+1CF00 on. -/
def pictographs : String :=
  "@1CF00aZNAMENNY COMBINING MARK GORAZDO NIZKO S KRYZHEM ON LEFTdNIZKO S KRYZHEM ON LEFT
dTSATA ON LEFTdGORAZDO NIZKO ON LEFTdNIZKO ON LEFTdSREDNE ON LEFTdMALO POVYSHE ON LEFT
dPOVYSHE ON LEFTdVYSOKO ON LEFTdMALO POVYSHE S KHOKHLOM ON LEFTdPOVYSHE S KHOKHLOM ON LEFT
dVYSOKO S KHOKHLOM ON LEFTdGORAZDO NIZKO S KRYZHEM ON RIGHTdNIZKO S KRYZHEM ON RIGHT
dTSATA ON RIGHTdGORAZDO NIZKO ON RIGHTdNIZKO ON RIGHTdSREDNE ON RIGHTdMALO POVYSHE ON RIGHT
dPOVYSHE ON RIGHTdVYSOKO ON RIGHTdMALO POVYSHE S KHOKHLOM ON RIGHTdPOVYSHE S KHOKHLOM ON RIGHT
dVYSOKO S KHOKHLOM ON RIGHTdTSATA S KRYZHEMdMALO POVYSHE S KRYZHEMdSTRANNO MALO POVYSHE
dPOVYSHE S KRYZHEMeSTRANNOdVYSOKO S KRYZHEMdMALO POVYSHE STRANNOdGORAZDO VYSOKOdZELOdONdRAVNO
dTIKHAYAdBORZAYAdUDARKAdPODVERTKAdLOMKAdKUPNAYAdKACHKAdZEVOKdSKOBAdRAZSEKAdKRYZH ON LEFT
@1CF30cTONAL RANGE MARK MRACHNOfSVETLOfTRESVETLOcMARK ZADERZHKAdDEMESTVENNY ZADERZHKAdOTSECHKA
dPODCHASHIEeWITH VERTICAL STROKEdCHASHKAePOLNAYAdOBLACHKOdSOROCHYA NOZHKAdTOCHKAdDVOETOCHIE
cATTACHING VERTICAL OMETcMARK CURVED OMETdKRYZHcLOWER TONAL RANGE INDICATOR
bPRIZNAK MODIFIER LEVEL-2dLEVEL-3dDIRECTION FLIPdKRYZHdROG@1CF50bNEUME KRYUKdTIKHYcPARAKLIT
cDVA V CHELNUcKLYUCHcZANOZHEKcSTOPITSAdS OCHKOMcPEREVODKAdNEPOSTOYANNAYA
cSTOPITSA WITH SOROCHYA NOZHKAcCHELYUSTKAcPALKAcZAPYATAYAcGOLUBCHIK BORZYdTIKHYdMRACHNYdSVETLY
dTRESVETLYcVRAKHIYA PROSTAYAdMRACHNAYAdSVETLAYAdTRESVETLAYAdKLYUCHEVAYA PROSTAYAeMRACHNAYA
eSVETLAYAeTRESVETLAYAcDOUBLE ZAPYATAYAcREVERSED CHELYUSTKAcDERBITSAcKHAMILOcCHASHKAcPODCHASHIE
cSKAMEYTSA MRACHNAYAdSVETLAYAdTRESVETLAYAdTIKHAYAcDEMESTVENNY KLYUCH
cSKAMEYTSA KLYUCHEVAYA SVETLAYAdKLYUCHENEPOSTOYANNAYAdKLYUCHEVAYA TIKHAYAdDVOECHELNAYA PROSTAYA
eSVETLAYAeNEPOSTOYANNAYAeKLYUCHEVAYAcSLOZHITIEdS ZAPYATOYdZAKRYTOEdS KRYZHEMcKRYZHcROGcFITAcKOBYLA
cZMEYTSAcSTATYAdS ZAPYATOYeKRYZHEMeZAPYATOY I KRYZHEMeKRYZHEM I ZAPYATOYdZAKRYTAYAeS ZAPYATOY
dS ROGOMeDVUMYA ZAPYATYMIeZAPYATOY I PODCHASHIEMcPOLKULIZMYcSTATYA NEPOSTOYANNAYAcSTRELA PROSTAYA
dMRACHNOTIKHAYAdKRYZHEVAYAdPOLUPOVODNAYAdPOVODNAYAdNEPOSTOYANNAYAdKLYUCHEPOVODNAYA
dKLYUCHENEPOSTOYANNAYAdTIKHAYA PUTNAYAdDVOECHELNAYAdDVOECHELNOKRYZHEVAYAdDVOECHELNOPOVODNAYA
dDVOECHELNAYA KLYUCHEVAYAdDVOECHELNOPOVODNAYA KLYUCHEVAYAdGROMNAYA WITH SINGLE ZAPYATAYA
dGROMOPOVODNAYA WITH SINGLE ZAPYATAYAdGROMNAYAdGROMOPOVODNAYAeWITH DOUBLE ZAPYATAYA
dGROMOKRYZHEVAYAePOVODNAYAcMECHIKdPOVODNYdKLYUCHEVOYdKLYUCHEPOVODNYdKLYUCHENEPOSTOYANNY
cSTRELA TRYASOGLASNAYAdTRYASOPOVODNAYAdTRYASOSTRELNAYAcOSOKAdSVETLAYAdTRESVETLAYA
dKRYUKOVAYA SVETLAYAdKLYUCHEVAYA SVETLAYAeNEPOSTOYANNAYAcSTRELA KRYUKOVAYAePOVODNAYA
eGROMNAYA WITH SINGLE ZAPYATAYAeGROMOPOVODNAYA WITH SINGLE ZAPYATAYAeGROMNAYAeGROMOPOVODNAYA
fWITH DOUBLE ZAPYATAYAeGROMOKRYZHEVAYAfPOVODNAYAeTRYASKAcKUFISMAcOBLAKOcDUDAcNEMKAcPAUK
@1D000aBYZANTINE MUSICAL SYMBOL PSILIdDASEIAdPERISPOMENIdOXEIA EKFONITIKONeDIPLI
dVAREIA EKFONITIKONeDIPLIdKATHISTIdSYRMATIKIdPARAKLITIKIdYPOKRISISeDIPLIdKREMASTI
dAPESO EKFONITIKONdEXO EKFONITIKONdTELEIAdKENTIMATAdAPOSTROFOSeDIPLIdSYNEVMAdTHITAdOLIGON ARCHAION
dGORGON ARCHAIONdPSILONdCHAMILONdVATHYdISON ARCHAIONdKENTIMA ARCHAIONdKENTIMATA ARCHAIONdSAXIMATA
dPARICHONdSTAVROS APODEXIAdOXEIAI ARCHAIONdVAREIAI ARCHAIONdAPODERMA ARCHAIONdAPOTHEMAdKLASMA
dREVMAdPIASMA ARCHAIONdTINAGMAdANATRICHISMAdSEISMAdSYNAGMA ARCHAIONeMETA STAVROU
dOYRANISMA ARCHAIONdTHEMAdLEMOIdDYOdTRIAdTESSERAdKRATIMATAdAPESO EXO NEOdFTHORA ARCHAIONdIMIFTHORA
dTROMIKON ARCHAIONdKATAVA TROMIKONdPELASTONdPSIFISTONdKONTEVMAdCHOREVMA ARCHAIONdRAPISMA
dPARAKALESMA ARCHAIONdPARAKLITIKI ARCHAIONdICHADINdNANAdPETASMAdKONTEVMA ALLOdTROMIKON ALLO
dSTRAGGISMATAdGRONTHISMATAdISON NEOdOLIGON NEOdOXEIA NEOdPETASTIdKOUFISMAdPETASTOKOUFISMA
dKRATIMOKOUFISMAdPELASTON NEOdKENTIMATA NEO ANOdKENTIMA NEO ANOdYPSILIdAPOSTROFOS NEO
dAPOSTROFOI SYNDESMOS NEOdYPORROIdKRATIMOYPORROONdELAFRONdCHAMILIdMIKRON ISONdVAREIA NEO
dPIASMA NEOdPSIFISTON NEOdOMALONdANTIKENOMAdLYGISMAdPARAKLITIKI NEOdPARAKALESMA NEO
dETERON PARAKALESMAdKYLISMAdANTIKENOKYLISMAdTROMIKON NEOdEKSTREPTONdSYNAGMA NEOdSYRMAdCHOREVMA NEO
dEPEGERMAdSEISMA NEOdXIRON KLASMAdTROMIKOPSIFISTONdPSIFISTOLYGISMAdTROMIKOLYGISMA
dTROMIKOPARAKALESMAdPSIFISTOPARAKALESMAdTROMIKOSYNAGMAdPSIFISTOSYNAGMAdGORGOSYNTHETON
dARGOSYNTHETONdETERON ARGOSYNTHETONdOYRANISMA NEOdTHEMATISMOS ESOeEXOdTHEMA APLOUN
dTHES KAI APOTHESdKATAVASMAdENDOFONONdYFEN KATOeANOdSTAVROSdKLASMA ANOdDIPLI ARCHAION
dKRATIMA ARCHAIONeALLOeNEOdAPODERMA NEOdAPLIdDIPLIdTRIPLIdTETRAPLIdKORONISdLEIMMA ENOS CHRONOU
eDYO CHRONONeTRION CHRONONeTESSARON CHRONONeIMISEOS CHRONOUdGORGON NEO ANOePARESTIGMENON ARISTERA
fDEXIAdDIGORGONePARESTIGMENON ARISTERA KATOgANOfDEXIAdTRIGORGONdARGONdIMIDIARGONdDIARGON
dAGOGI POLI ARGIeARGOTERIeARGIeMETRIAeMESIeGORGIeGORGOTERIePOLI GORGIdMARTYRIA PROTOS ICHOS
eALLI PROTOS ICHOSeDEYTEROS ICHOSeALLI DEYTEROS ICHOSeTRITOS ICHOSeTRIFONIASeTETARTOS ICHOS
fLEGETOS ICHOSeLEGETOS ICHOSePLAGIOS ICHOSdISAKIA TELOUS ICHIMATOSdAPOSTROFOI TELOUS ICHIMATOS
dFANEROSIS TETRAFONIASeMONOFONIASeDIFONIASdMARTYRIA VARYS ICHOSePROTOVARYS ICHOS
ePLAGIOS TETARTOS ICHOSdGORTHMIKON N APLOUNfDIPLOUNdENARXIS KAI FTHORA VOUdIMIFONONdIMIFTHORON
dFTHORA ARCHAION DEYTEROU ICHOUeDIATONIKI PAfNANAeNAOS ICHOSeDIATONIKI DIeSKLIRON DIATONON DI
eDIATONIKI KEfZOfNI KATOgANOeMALAKON CHROMA DIFONIASgMONOFONIASdFHTORA SKLIRON CHROMA VASIS
dFTHORA SKLIRON CHROMA SYNAFIeNENANOdCHROA ZYGOSeKLITONeSPATHIdFTHORA I YFESIS TETARTIMORION
eENARMONIOS ANTIFONIAdYFESIS TRITIMORIONdDIESIS TRITIMORIONeTETARTIMORIONeAPLI DYO DODEKATA
eMONOGRAMMOS TESSERA DODEKATAeDIGRAMMOS EX DODEKATAeTRIGRAMMOS OKTO DODEKATA
dYFESIS APLI DYO DODEKATAeMONOGRAMMOS TESSERA DODEKATAeDIGRAMMOS EX DODEKATA
eTRIGRAMMOS OKTO DODEKATAdGENIKI DIESISeYFESISdDIASTOLI APLI MIKRIfMEGALIeDIPLIeTHESEOS
dSIMANSIS THESEOSfDISIMOUfTRISIMOUfTETRASIMOUeARSEOSfDISIMOUfTRISIMOUfTETRASIMOUdDIGRAMMA GG
dDIFTOGGOS OUdSTIGMAdARKTIKO PAeVOUeGAeDIeKEeZOeNIdKENTIMATA NEO MESOdKENTIMA NEO MESO
dKENTIMATA NEO KATOdKENTIMA NEO KATOdKLASMA KATOdGORGON NEO KATO
@1D100aMUSICAL SYMBOL SINGLE BARLINEcDOUBLE BARLINEcFINAL BARLINEcREVERSE FINAL BARLINE
cDASHED BARLINEcSHORT BARLINEcLEFT REPEAT SIGNcRIGHT REPEAT SIGNcREPEAT DOTScDAL SEGNOcDA CAPO
cSEGNOcCODAcREPEATED FIGURE-1dFIGURE-2dFIGURE-3cFERMATAdBELOWcBREATH MARKcCAESURAcBRACEcBRACKET
cONE-LINE STAFFcTWO-LINE STAFFcTHREE-LINE STAFFcFOUR-LINE STAFFcFIVE-LINE STAFFcSIX-LINE STAFF
cSIX-STRING FRETBOARDcFOUR-STRING FRETBOARDcG CLEFeOTTAVA ALTAfBASSAcC CLEFcF CLEFeOTTAVA ALTA
fBASSAcDRUM CLEF-1dCLEF-2@1D129cMULTIPLE MEASURE RESTcDOUBLE SHARPdFLATcFLAT UPdDOWNcNATURAL UP
dDOWNcSHARP UPdDOWNcQUARTER TONE SHARPeFLATcCOMMON TIMEcCUT TIMEcOTTAVA ALTAdBASSA
cQUINDICESIMA ALTAdBASSAcMULTI RESTcWHOLE RESTcHALF RESTcQUARTER RESTcEIGHTH RESTcSIXTEENTH REST
cTHIRTY-SECOND RESTcSIXTY-FOURTH RESTcONE HUNDRED TWENTY-EIGHTH RESTcX NOTEHEADcPLUS NOTEHEAD
cCIRCLE X NOTEHEADcSQUARE NOTEHEAD WHITEeBLACKcTRIANGLE NOTEHEAD UP WHITEfBLACKeLEFT WHITEfBLACK
eRIGHT WHITEfBLACKeDOWN WHITEfBLACKeUP RIGHT WHITEgBLACKcMOON NOTEHEAD WHITEeBLACK
cTRIANGLE-ROUND NOTEHEAD DOWN WHITEfBLACKcPARENTHESIS NOTEHEADcVOID NOTEHEADcNOTEHEAD BLACK
cNULL NOTEHEADcCLUSTER NOTEHEAD WHITEeBLACKcBREVEcWHOLE NOTEcHALF NOTEcQUARTER NOTEcEIGHTH NOTE
cSIXTEENTH NOTEcTHIRTY-SECOND NOTEcSIXTY-FOURTH NOTEcONE HUNDRED TWENTY-EIGHTH NOTEcCOMBINING STEM
dSPRECHGESANG STEMdTREMOLO-1dTREMOLO-2dTREMOLO-3cFINGERED TREMOLO-1dTREMOLO-2dTREMOLO-3
cCOMBINING AUGMENTATION DOTdFLAG-1dFLAG-2dFLAG-3dFLAG-4dFLAG-5cBEGIN BEAMcEND BEAMcBEGIN TIE
cEND TIEcBEGIN SLURcEND SLURcBEGIN PHRASEcEND PHRASEcCOMBINING ACCENTdSTACCATOdTENUTO
dSTACCATISSIMOdMARCATOdMARCATO-STACCATOdACCENT-STACCATOdLOUREcARPEGGIATO UPdDOWNcCOMBINING DOIT
dRIPdFLIPdSMEARdBENDdDOUBLE TONGUEdTRIPLE TONGUEcRINFORZANDOcSUBITOcZcPIANOcMEZZOcFORTEcCRESCENDO
cDECRESCENDOcGRACE NOTE SLASHeNO SLASHcTRcTURNcINVERTED TURNcTURN SLASHdUPcORNAMENT STROKE-1
dSTROKE-2dSTROKE-3dSTROKE-4dSTROKE-5dSTROKE-6dSTROKE-7dSTROKE-8dSTROKE-9dSTROKE-10dSTROKE-11
cHAUPTSTIMMEcNEBENSTIMMEcEND OF STIMMEcDEGREE SLASHcCOMBINING DOWN BOWdUP BOWdHARMONIC
dSNAP PIZZICATOcPEDAL MARKdUP MARKcHALF PEDAL MARKcGLISSANDO UPdDOWNcWITH FINGERNAILScDAMPdALL
cMAXIMAcLONGAcBREVIScSEMIBREVIS WHITEdBLACKcMINIMAdBLACKcSEMIMINIMA WHITEdBLACKcFUSA WHITEdBLACK
cLONGA PERFECTA RESTdIMPERFECTA RESTcBREVIS RESTcSEMIBREVIS RESTcMINIMA RESTcSEMIMINIMA REST
cTEMPUS PERFECTUM CUM PROLATIONE PERFECTAgIMPERFECTAgPERFECTA DIMINUTION-1
dIMPERFECTUM CUM PROLATIONE PERFECTAgIMPERFECTAhDIMINUTION-1hDIMINUTION-2hDIMINUTION-3cCROIX
cGREGORIAN C CLEFdF CLEFcSQUARE BcVIRGAcPODATUScCLIVIScSCANDICUScCLIMACUScTORCULUScPORRECTUS
dFLEXUScSCANDICUS FLEXUScTORCULUS RESUPINUScPES SUBPUNCTIScKIEVAN C CLEFdEND OF PIECEdFINAL NOTE
dRECITATIVE MARKdWHOLE NOTEdHALF NOTEdQUARTER NOTE STEM DOWNgUPdEIGHTH NOTE STEM DOWNgUPdFLAT SIGN
cSORIcKORON@1D200aGREEK VOCAL NOTATION SYMBOL-1dSYMBOL-2dSYMBOL-3dSYMBOL-4dSYMBOL-5dSYMBOL-6
dSYMBOL-7dSYMBOL-8dSYMBOL-9dSYMBOL-10dSYMBOL-11dSYMBOL-12dSYMBOL-13dSYMBOL-14dSYMBOL-15dSYMBOL-16
dSYMBOL-17dSYMBOL-18dSYMBOL-19dSYMBOL-20dSYMBOL-21dSYMBOL-22dSYMBOL-23dSYMBOL-24dSYMBOL-50
dSYMBOL-51dSYMBOL-52dSYMBOL-53dSYMBOL-54bINSTRUMENTAL NOTATION SYMBOL-1dSYMBOL-2dSYMBOL-4dSYMBOL-5
dSYMBOL-7dSYMBOL-8dSYMBOL-11dSYMBOL-12dSYMBOL-13dSYMBOL-14dSYMBOL-17dSYMBOL-18dSYMBOL-19dSYMBOL-23
dSYMBOL-24dSYMBOL-25dSYMBOL-26dSYMBOL-27dSYMBOL-29dSYMBOL-30dSYMBOL-32dSYMBOL-36dSYMBOL-37
dSYMBOL-38dSYMBOL-39dSYMBOL-40dSYMBOL-42dSYMBOL-43dSYMBOL-45dSYMBOL-47dSYMBOL-48dSYMBOL-49
dSYMBOL-50dSYMBOL-51dSYMBOL-52dSYMBOL-53dSYMBOL-54aCOMBINING GREEK MUSICAL TRISEMEdTETRASEME
dPENTASEMEaGREEK MUSICAL LEIMMA@1D2C0aKAKTOVIK NUMERAL ZEROcONEcTWOcTHREEcFOURcFIVEcSIXcSEVEN
cEIGHTcNINEcTENcELEVENcTWELVEcTHIRTEENcFOURTEENcFIFTEENcSIXTEENcSEVENTEENcEIGHTEENcNINETEEN
@1D2E0aMAYAN NUMERAL ZEROcONEcTWOcTHREEcFOURcFIVEcSIXcSEVENcEIGHTcNINEcTENcELEVENcTWELVEcTHIRTEEN
cFOURTEENcFIFTEENcSIXTEENcSEVENTEENcEIGHTEENcNINETEEN@1D300aMONOGRAM FOR EARTH
aDIGRAM FOR HEAVENLY EARTHcHUMAN EARTHcEARTHLY HEAVENdHUMANcEARTHaTETRAGRAM FOR CENTREcFULL CIRCLE
cMIREDcBARRIERcKEEPING SMALLcCONTRARIETYcASCENTcOPPOSITIONcBRANCHING OUT
cDEFECTIVENESS OR DISTORTIONcDIVERGENCEcYOUTHFULNESScINCREASEcPENETRATIONcREACHcCONTACT
cHOLDING BACKcWAITINGcFOLLOWINGcADVANCEcRELEASEcRESISTANCEcEASEcJOYcCONTENTIONcENDEAVOURcDUTIES
cCHANGEcDECISIVENESScBOLD RESOLUTIONcPACKINGcLEGIONcCLOSENESScKINSHIPcGATHERINGcSTRENGTHcPURITY
cFULLNESScRESIDENCEcLAW OR MODELcRESPONSEcGOING TO MEETcENCOUNTERScSTOVEcGREATNESScENLARGEMENT
cPATTERNcRITUALcFLIGHTcVASTNESS OR WASTINGcCONSTANCYcMEASUREcETERNITYcUNITYcDIMINISHMENT
cCLOSED MOUTHcGUARDEDNESScGATHERING INcMASSINGcACCUMULATIONcEMBELLISHMENTcDOUBTcWATCHcSINKING
cINNERcDEPARTUREcDARKENINGcDIMMINGcEXHAUSTIONcSEVERANCEcSTOPPAGEcHARDNESScCOMPLETIONcCLOSURE
cFAILUREcAGGRAVATIONcCOMPLIANCEcON THE VERGEcDIFFICULTIEScLABOURINGcFOSTERING
@1D360aCOUNTING ROD UNIT DIGIT ONEeTWOeTHREEeFOUReFIVEeSIXeSEVENeEIGHTeNINEcTENS DIGIT ONEeTWO
eTHREEeFOUReFIVEeSIXeSEVENeEIGHTeNINEaIDEOGRAPHIC TALLY MARK ONEdTWOdTHREEdFOURdFIVE
aTALLY MARK ONEcFIVE@1D400aMATHEMATICAL BOLD CAPITAL AdBdCdDdEdFdGdHdIdJdKdLdMdNdOdPdQdRdSdTdUdVdW
dXdYdZcSMALL AdBdCdDdEdFdGdHdIdJdKdLdMdNdOdPdQdRdSdTdUdVdWdXdYdZbITALIC CAPITAL AdBdCdDdEdFdGdHdI
dJdKdLdMdNdOdPdQdRdSdTdUdVdWdXdYdZcSMALL AdBdCdDdEdFdG@1D456dIdJdKdLdMdNdOdPdQdRdSdTdUdVdWdXdYdZ
bBOLD ITALIC CAPITAL AeBeCeDeEeFeGeHeIeJeKeLeMeNeOePeQeReSeTeUeVeWeXeYeZdSMALL AeBeCeDeEeFeGeHeIeJ
eKeLeMeNeOePeQeReSeTeUeVeWeXeYeZbSCRIPT CAPITAL A@1D49EdCdD@1D4A2dG@1D4A5dJdK@1D4A9dNdOdPdQ
@1D4AEdSdTdUdVdWdXdYdZcSMALL AdBdCdD@1D4BBdF@1D4BDdHdIdJdKdLdMdN@1D4C5dPdQdRdSdTdUdVdWdXdYdZ
bBOLD SCRIPT CAPITAL AeBeCeDeEeFeGeHeIeJeKeLeMeNeOePeQeReSeTeUeVeWeXeYeZdSMALL AeBeCeDeEeFeGeHeIeJ
eKeLeMeNeOePeQeReSeTeUeVeWeXeYeZbFRAKTUR CAPITAL AdB@1D507dDdEdFdG@1D50DdJdKdLdMdNdOdPdQ@1D516dSdT
dUdVdWdXdY@1D51EcSMALL AdBdCdDdEdFdGdHdIdJdKdLdMdNdOdPdQdRdSdTdUdVdWdXdYdZbDOUBLE-STRUCK CAPITAL A
dB@1D53BdDdEdFdG@1D540dIdJdKdLdM@1D546dO@1D54AdSdTdUdVdWdXdY@1D552cSMALL AdBdCdDdEdFdGdHdIdJdKdLdM
dNdOdPdQdRdSdTdUdVdWdXdYdZbBOLD FRAKTUR CAPITAL AeBeCeDeEeFeGeHeIeJeKeLeMeNeOePeQeReSeTeUeVeWeXeY
eZdSMALL AeBeCeDeEeFeGeHeIeJeKeLeMeNeOePeQeReSeTeUeVeWeXeYeZbSANS-SERIF CAPITAL AdBdCdDdEdFdGdHdI
dJdKdLdMdNdOdPdQdRdSdTdUdVdWdXdYdZcSMALL AdBdCdDdEdFdGdHdIdJdKdLdMdNdOdPdQdRdSdTdUdVdWdXdYdZ
cBOLD CAPITAL AeBeCeDeEeFeGeHeIeJeKeLeMeNeOePeQeReSeTeUeVeWeXeYeZdSMALL AeBeCeDeEeFeGeHeIeJeKeLeM
eNeOePeQeReSeTeUeVeWeXeYeZcITALIC CAPITAL AeBeCeDeEeFeGeHeIeJeKeLeMeNeOePeQeReSeTeUeVeWeXeYeZ
dSMALL AeBeCeDeEeFeGeHeIeJeKeLeMeNeOePeQeReSeTeUeVeWeXeYeZcBOLD ITALIC CAPITAL AfBfCfDfEfFfGfHfIfJ
fKfLfMfNfOfPfQfRfSfTfUfVfWfXfYfZeSMALL AfBfCfDfEfFfGfHfIfJfKfLfMfNfOfPfQfRfSfTfUfVfWfXfYfZ
bMONOSPACE CAPITAL AdBdCdDdEdFdGdHdIdJdKdLdMdNdOdPdQdRdSdTdUdVdWdXdYdZcSMALL AdBdCdDdEdFdGdHdIdJdK
dLdMdNdOdPdQdRdSdTdUdVdWdXdYdZbITALIC SMALL DOTLESS IeJ@1D6A8bBOLD CAPITAL ALPHAdBETAdGAMMAdDELTA
dEPSILONdZETAdETAdTHETAdIOTAdKAPPAdLAMDAdMUdNUdXIdOMICRONdPIdRHOdTHETA SYMBOLdSIGMAdTAUdUPSILON
dPHIdCHIdPSIdOMEGAcNABLAcSMALL ALPHAdBETAdGAMMAdDELTAdEPSILONdZETAdETAdTHETAdIOTAdKAPPAdLAMDAdMU
dNUdXIdOMICRONdPIdRHOdFINAL SIGMAdSIGMAdTAUdUPSILONdPHIdCHIdPSIdOMEGAcPARTIAL DIFFERENTIAL
cEPSILON SYMBOLcTHETA SYMBOLcKAPPA SYMBOLcPHI SYMBOLcRHO SYMBOLcPI SYMBOLbITALIC CAPITAL ALPHA
dBETAdGAMMAdDELTAdEPSILONdZETAdETAdTHETAdIOTAdKAPPAdLAMDAdMUdNUdXIdOMICRONdPIdRHOdTHETA SYMBOL
dSIGMAdTAUdUPSILONdPHIdCHIdPSIdOMEGAcNABLAcSMALL ALPHAdBETAdGAMMAdDELTAdEPSILONdZETAdETAdTHETA
dIOTAdKAPPAdLAMDAdMUdNUdXIdOMICRONdPIdRHOdFINAL SIGMAdSIGMAdTAUdUPSILONdPHIdCHIdPSIdOMEGA
cPARTIAL DIFFERENTIALcEPSILON SYMBOLcTHETA SYMBOLcKAPPA SYMBOLcPHI SYMBOLcRHO SYMBOLcPI SYMBOL
bBOLD ITALIC CAPITAL ALPHAeBETAeGAMMAeDELTAeEPSILONeZETAeETAeTHETAeIOTAeKAPPAeLAMDAeMUeNUeXI
eOMICRONePIeRHOeTHETA SYMBOLeSIGMAeTAUeUPSILONePHIeCHIePSIeOMEGAdNABLAdSMALL ALPHAeBETAeGAMMA
eDELTAeEPSILONeZETAeETAeTHETAeIOTAeKAPPAeLAMDAeMUeNUeXIeOMICRONePIeRHOeFINAL SIGMAeSIGMAeTAU
eUPSILONePHIeCHIePSIeOMEGAdPARTIAL DIFFERENTIALdEPSILON SYMBOLdTHETA SYMBOLdKAPPA SYMBOL
dPHI SYMBOLdRHO SYMBOLdPI SYMBOLbSANS-SERIF BOLD CAPITAL ALPHAeBETAeGAMMAeDELTAeEPSILONeZETAeETA
eTHETAeIOTAeKAPPAeLAMDAeMUeNUeXIeOMICRONePIeRHOeTHETA SYMBOLeSIGMAeTAUeUPSILONePHIeCHIePSIeOMEGA
dNABLAdSMALL ALPHAeBETAeGAMMAeDELTAeEPSILONeZETAeETAeTHETAeIOTAeKAPPAeLAMDAeMUeNUeXIeOMICRONePI
eRHOeFINAL SIGMAeSIGMAeTAUeUPSILONePHIeCHIePSIeOMEGAdPARTIAL DIFFERENTIALdEPSILON SYMBOL
dTHETA SYMBOLdKAPPA SYMBOLdPHI SYMBOLdRHO SYMBOLdPI SYMBOLdITALIC CAPITAL ALPHAfBETAfGAMMAfDELTA
fEPSILONfZETAfETAfTHETAfIOTAfKAPPAfLAMDAfMUfNUfXIfOMICRONfPIfRHOfTHETA SYMBOLfSIGMAfTAUfUPSILON
fPHIfCHIfPSIfOMEGAeNABLAeSMALL ALPHAfBETAfGAMMAfDELTAfEPSILONfZETAfETAfTHETAfIOTAfKAPPAfLAMDAfMU
fNUfXIfOMICRONfPIfRHOfFINAL SIGMAfSIGMAfTAUfUPSILONfPHIfCHIfPSIfOMEGAePARTIAL DIFFERENTIAL
eEPSILON SYMBOLeTHETA SYMBOLeKAPPA SYMBOLePHI SYMBOLeRHO SYMBOLePI SYMBOLbBOLD CAPITAL DIGAMMA
cSMALL DIGAMMA@1D7CEcDIGIT ZEROdONEdTWOdTHREEdFOURdFIVEdSIXdSEVENdEIGHTdNINE
bDOUBLE-STRUCK DIGIT ZEROdONEdTWOdTHREEdFOURdFIVEdSIXdSEVENdEIGHTdNINEbSANS-SERIF DIGIT ZEROdONE
dTWOdTHREEdFOURdFIVEdSIXdSEVENdEIGHTdNINEcBOLD DIGIT ZEROeONEeTWOeTHREEeFOUReFIVEeSIXeSEVENeEIGHT
eNINEbMONOSPACE DIGIT ZEROdONEdTWOdTHREEdFOURdFIVEdSIXdSEVENdEIGHTdNINE
aSIGNWRITING HAND-FIST INDEXbHAND-CIRCLE INDEXbHAND-CUP INDEXbHAND-OVAL INDEXbHAND-HINGE INDEX
bHAND-ANGLE INDEXbHAND-FIST INDEX BENTbHAND-CIRCLE INDEX BENTbHAND-FIST THUMB UNDER INDEX BENT
cINDEX RAISED KNUCKLEdCUPPEDdHINGEDeLOWbHAND-CIRCLE INDEX HINGEbHAND-FIST INDEX MIDDLE
bHAND-CIRCLE INDEX MIDDLEbHAND-FIST INDEX MIDDLE BENTeRAISED KNUCKLESeHINGEDdUP MIDDLE HINGED
dHINGED MIDDLE UPdMIDDLE CONJOINEDfINDEX BENTfMIDDLE BENTfCUPPEDfHINGEDeCROSSED
bHAND-CIRCLE INDEX MIDDLE CROSSEDbHAND-FIST MIDDLE BENT OVER INDEXcINDEX BENT OVER MIDDLE
dMIDDLE THUMBbHAND-CIRCLE INDEX MIDDLE THUMBbHAND-FIST INDEX MIDDLE STRAIGHT THUMB BENT
eBENT THUMB STRAIGHTeTHUMB BENTeHINGED SPREAD THUMB SIDEdUP MIDDLE HINGED THUMB SIDEhCONJOINED
dHINGED MIDDLE UP THUMB SIDEdMIDDLE UP SPREAD THUMB FORWARDeTHUMB CUPPEDfCIRCLEDfHOOKEDfHINGED
cTHUMB BETWEEN INDEX MIDDLE STRAIGHTcINDEX MIDDLE CONJOINED THUMB SIDEhCONJOINEDhBENT
cMIDDLE THUMB HOOKED INDEX UPcINDEX THUMB HOOKED MIDDLE UPdMIDDLE CONJOINED HINGED THUMB SIDE
eCROSSED THUMB SIDEeCONJOINED THUMB FORWARDfCUPPED THUMB FORWARDcMIDDLE THUMB CUPPED INDEX UP
cINDEX THUMB CUPPED MIDDLE UPcMIDDLE THUMB CIRCLED INDEX UPgHINGED
cINDEX THUMB ANGLED OUT MIDDLE UPfIN MIDDLE UPeCIRCLED MIDDLE UPdMIDDLE THUMB CONJOINED HINGED
fANGLED OUTfANGLEDcMIDDLE THUMB ANGLED OUT INDEX UPhCROSSEDfINDEX UP
cINDEX THUMB HOOKED MIDDLE HINGEDbHAND-FLAT FOUR FINGERSeBENTeHINGEDeCONJOINEDfSPLIT
bHAND-CLAW FOUR FINGERS CONJOINEDbHAND-FIST FOUR FINGERS CONJOINED BENT
bHAND-HINGE FOUR FINGERS CONJOINEDbHAND-FLAT FIVE FINGERS SPREADcHEEL FIVE FINGERS SPREAD
cFIVE FINGERS SPREAD FOUR BENTcHEEL FIVE FINGERS SPREAD FOUR BENTcFIVE FINGERS SPREAD BENT
cHEEL FIVE FINGERS SPREAD BENTcFIVE FINGERS SPREAD THUMB FORWARDbHAND-CUP FIVE FINGERS SPREADfOPEN
bHAND-HINGE FIVE FINGERS SPREAD OPENbHAND-OVAL FIVE FINGERS SPREAD
bHAND-FLAT FIVE FINGERS SPREAD HINGEDgTHUMB SIDEgNO THUMBbHAND-FLATcBETWEEN PALM FACINGScHEEL
cTHUMB SIDEcHEEL THUMB SIDEcTHUMB BENTdFORWARDcSPLIT INDEX THUMB SIDEdCENTREeTHUMB SIDEgBENT
dLITTLEbHAND-CLAWcTHUMB SIDEcNO THUMBcTHUMB FORWARDbHAND-HOOK CURLICUEbHAND-HOOKbHAND-CUP OPEN
bHAND-CUPcOPEN THUMB SIDEcTHUMB SIDEcOPEN NO THUMBcNO THUMBcOPEN THUMB FORWARDcTHUMB FORWARD
bHAND-CURLICUE OPENbHAND-CURLICUEbHAND-CIRCLEbHAND-OVALcTHUMB SIDEcNO THUMBcTHUMB FORWARD
bHAND-HINGE OPENdTHUMB FORWARDbHAND-HINGEcSMALLcOPEN THUMB SIDEcTHUMB SIDEcOPEN NO THUMBcNO THUMB
cTHUMB SIDE TOUCHING INDEXdBETWEEN MIDDLE RINGbHAND-ANGLEbHAND-FIST INDEX MIDDLE RING
bHAND-CIRCLE INDEX MIDDLE RINGbHAND-HINGE INDEX MIDDLE RINGbHAND-ANGLE INDEX MIDDLE RING
bHAND-HINGE LITTLEbHAND-FIST INDEX MIDDLE RING BENTfCONJOINED
bHAND-HINGE INDEX MIDDLE RING CONJOINEDbHAND-FIST LITTLE DOWNeRIPPLE STRAIGHTfCURVED
eOTHERS CIRCLEDdUPcTHUMB UNDER LITTLE UPbHAND-CIRCLE LITTLE UPbHAND-OVAL LITTLE UP
bHAND-ANGLE LITTLE UPbHAND-FIST LITTLE RAISED KNUCKLEdBENTdTOUCHES THUMBdTHUMB
bHAND-HINGE LITTLE THUMBbHAND-FIST LITTLE INDEX THUMBbHAND-HINGE LITTLE INDEX THUMB
bHAND-ANGLE LITTLE INDEX THUMB INDEX THUMB OUTgTHUMBbHAND-FIST LITTLE INDEX
bHAND-CIRCLE LITTLE INDEXbHAND-HINGE LITTLE INDEXbHAND-ANGLE LITTLE INDEX
bHAND-FIST INDEX MIDDLE LITTLEbHAND-CIRCLE INDEX MIDDLE LITTLEbHAND-HINGE INDEX MIDDLE LITTLEcRING
bHAND-ANGLE INDEX MIDDLE LITTLEbHAND-FIST INDEX MIDDLE CROSS LITTLE
bHAND-CIRCLE INDEX MIDDLE CROSS LITTLEbHAND-FIST RING DOWN
bHAND-HINGE RING DOWN INDEX THUMB HOOK MIDDLEbHAND-ANGLE RING DOWN MIDDLE THUMB INDEX CROSS
bHAND-FIST RING UPdRAISED KNUCKLEdLITTLEbHAND-CIRCLE RING LITTLEbHAND-OVAL RING LITTLE
bHAND-ANGLE RING LITTLEbHAND-FIST RING MIDDLEeCONJOINEDeRAISED KNUCKLESdINDEXdTHUMB
bHAND-HOOK RING THUMBbHAND-FIST INDEX RING LITTLEbHAND-CIRCLE INDEX RING LITTLE
bHAND-CURLICUE INDEX RING LITTLE ONbHAND-HOOK INDEX RING LITTLE OUTfINfUNDER
bHAND-CUP INDEX RING LITTLEbHAND-HINGE INDEX RING LITTLEbHAND-ANGLE INDEX RING LITTLE OUTeLITTLE
bHAND-FIST MIDDLE DOWNbHAND-HINGE MIDDLEbHAND-FIST MIDDLE UPbHAND-CIRCLE MIDDLE UP
bHAND-FIST MIDDLE RAISED KNUCKLEdUP THUMB SIDEbHAND-HOOK MIDDLE THUMB
bHAND-FIST MIDDLE THUMB LITTLEdLITTLEdRING LITTLEbHAND-CIRCLE MIDDLE RING LITTLE
bHAND-CURLICUE MIDDLE RING LITTLE ONbHAND-CUP MIDDLE RING LITTLEbHAND-HINGE MIDDLE RING LITTLE
bHAND-ANGLE MIDDLE RING LITTLE OUTfINeLITTLEbHAND-CIRCLE MIDDLE RING LITTLE BENT
bHAND-CLAW MIDDLE RING LITTLE CONJOINEDgSIDEbHAND-HOOK MIDDLE RING LITTLE CONJOINED OUTgIN
fCONJOINEDbHAND-HINGE INDEX HINGEDbHAND-FIST INDEX THUMB SIDEbHAND-HINGE INDEX THUMB SIDE
bHAND-FIST INDEX THUMB SIDE THUMB DIAGONALgCONJOINEDgBENTfINDEX BENTfBOTH BENTfINDEX HINGE
eFORWARD INDEX STRAIGHTgBENTeHOOKeCURLICUEeCURVE THUMB INSIDE
bHAND-CLAW INDEX THUMB CURVE THUMB INSIDEbHAND-FIST INDEX THUMB CURVE THUMB UNDEReCIRCLE
bHAND-CUP INDEX THUMBeOPENbHAND-HINGE INDEX THUMB OPENeLARGEdTHUMBeSMALL
bHAND-ANGLE INDEX THUMB OUTeINdTHUMBbHAND-FIST THUMBdHEELdSIDE DIAGONALeCONJOINEDeBENTdFORWARD
dBETWEEN INDEX MIDDLEeMIDDLE RINGeRING LITTLEdUNDER TWO FINGERSdOVER TWO FINGERS
dUNDER THREE FINGERSeFOUR FINGERSdOVER FOUR RAISED KNUCKLESbHAND-FISTcHEELbTOUCH SINGLEcMULTIPLE
cBETWEENbGRASP SINGLEcMULTIPLEcBETWEENbSTRIKE SINGLEcMULTIPLEcBETWEENbBRUSH SINGLEcMULTIPLE
cBETWEENbRUB SINGLEcMULTIPLEcBETWEENbSURFACE SYMBOLScBETWEENbSQUEEZE LARGE SINGLEcSMALL SINGLE
cLARGE MULTIPLEcSMALL MULTIPLEcSEQUENTIALbFLICK LARGE SINGLEcSMALL SINGLEcLARGE MULTIPLE
cSMALL MULTIPLEcSEQUENTIALbSQUEEZE FLICK ALTERNATINGbMOVEMENT-HINGE UP DOWN LARGEeSMALLdSEQUENTIAL
cDOWN SEQUENTIALcUP DOWN ALTERNATING LARGEfSMALLcSIDE TO SIDE SCISSORS
bMOVEMENT-WALLPLANE FINGER CONTACTbMOVEMENT-FLOORPLANE FINGER CONTACT
bMOVEMENT-WALLPLANE SINGLE STRAIGHT SMALLeMEDIUMeLARGEeLARGESTdWRIST FLEXcDOUBLE STRAIGHT
dWRIST FLEXdALTERNATINGeWRIST FLEXcCROSScTRIPLE STRAIGHT MOVEMENTdWRIST FLEXdALTERNATING
eWRIST FLEXcBEND SMALLdMEDIUMdLARGEcCORNER SMALLdMEDIUMdLARGEdROTATIONcCHECK SMALLdMEDIUMdLARGE
cBOX SMALLdMEDIUMdLARGEcZIGZAG SMALLdMEDIUMdLARGEcPEAKS SMALLdMEDIUMdLARGE
bTRAVEL-WALLPLANE ROTATION-WALLPLANE SINGLEdDOUBLEdALTERNATINGcROTATION-FLOORPLANE SINGLEdDOUBLE
dALTERNATINGcSHAKINGcARM SPIRAL SINGLEeDOUBLEeTRIPLEbMOVEMENT-DIAGONAL AWAY SMALLdMEDIUMdLARGE
dLARGESTcTOWARDS SMALLdMEDIUMdLARGEdLARGESTcBETWEEN AWAY SMALLeMEDIUMeLARGEeLARGESTdTOWARDS SMALL
eMEDIUMeLARGEeLARGESTbMOVEMENT-FLOORPLANE SINGLE STRAIGHT SMALLeMEDIUMeLARGEeLARGESTdWRIST FLEX
cDOUBLE STRAIGHTdWRIST FLEXdALTERNATINGeWRIST FLEXcCROSScTRIPLE STRAIGHT MOVEMENTdWRIST FLEX
dALTERNATING MOVEMENTeWRIST FLEXcBENDcCORNER SMALLdMEDIUMdLARGEcCHECKcBOX SMALLdMEDIUMdLARGE
cZIGZAG SMALLdMEDIUMdLARGEcPEAKS SMALLdMEDIUMdLARGEbTRAVEL-FLOORPLANE ROTATION-FLOORPLANE SINGLE
dDOUBLEdALTERNATINGcROTATION-WALLPLANE SINGLEdDOUBLEdALTERNATINGcSHAKING
bMOVEMENT-WALLPLANE CURVE QUARTER SMALLeMEDIUMeLARGEeLARGESTdHALF-CIRCLE SMALLeMEDIUMeLARGE
eLARGESTdTHREE-QUARTER CIRCLE SMALLfMEDIUMcHUMP SMALLdMEDIUMdLARGEcLOOP SMALLdMEDIUMdLARGE
dSMALL DOUBLEcWAVE CURVE DOUBLE SMALLfMEDIUMfLARGEeTRIPLE SMALLfMEDIUMfLARGEcCURVE THEN STRAIGHT
cCURVED CROSS SMALLeMEDIUMbROTATION-WALLPLANE SINGLEcDOUBLEcALTERNATEbMOVEMENT-WALLPLANE SHAKING
cCURVE HITTING FRONT WALLcHUMP HITTING FRONT WALLcLOOP HITTING FRONT WALLcWAVE HITTING FRONT WALL
bROTATION-WALLPLANE SINGLE HITTING FRONT WALLcDOUBLE HITTING FRONT WALL
cALTERNATING HITTING FRONT WALLbMOVEMENT-WALLPLANE CURVE HITTING CHESTcHUMP HITTING CHEST
cLOOP HITTING CHESTcWAVE HITTING CHESTbROTATION-WALLPLANE SINGLE HITTING CHEST
cDOUBLE HITTING CHESTcALTERNATING HITTING CHESTbMOVEMENT-WALLPLANE WAVE DIAGONAL PATH SMALLfMEDIUM
fLARGEbMOVEMENT-FLOORPLANE CURVE HITTING CEILING SMALLfLARGEcHUMP HITTING CEILING SMALL DOUBLE
fLARGE DOUBLEfSMALL TRIPLEfLARGE TRIPLEcLOOP HITTING CEILING SMALL SINGLEfLARGE SINGLE
fSMALL DOUBLEfLARGE DOUBLEcWAVE HITTING CEILING SMALLfLARGE
bROTATION-FLOORPLANE SINGLE HITTING CEILINGcDOUBLE HITTING CEILINGcALTERNATING HITTING CEILING
bMOVEMENT-FLOORPLANE CURVE HITTING FLOOR SMALLfLARGEcHUMP HITTING FLOOR SMALL DOUBLEfLARGE DOUBLE
fTRIPLE SMALL TRIPLEgLARGE TRIPLEcLOOP HITTING FLOOR SMALL SINGLEfLARGE SINGLEfSMALL DOUBLE
fLARGE DOUBLEcWAVE HITTING FLOOR SMALLfLARGEbROTATION-FLOORPLANE SINGLE HITTING FLOOR
cDOUBLE HITTING FLOORcALTERNATING HITTING FLOORbMOVEMENT-FLOORPLANE CURVE SMALLdMEDIUMdLARGE
dLARGESTdCOMBINEDcHUMP SMALLcLOOP SMALLcWAVE SNAKEdSMALLdLARGEbROTATION-FLOORPLANE SINGLEcDOUBLE
cALTERNATINGbMOVEMENT-FLOORPLANE SHAKING PARALLELbMOVEMENT-WALLPLANE ARM CIRCLE SMALL SINGLE
eMEDIUM SINGLEeSMALL DOUBLEeMEDIUM DOUBLEbMOVEMENT-FLOORPLANE ARM CIRCLE HITTING WALL SMALL SINGLE
gMEDIUM SINGLEgLARGE SINGLEgSMALL DOUBLEgMEDIUM DOUBLEgLARGE DOUBLE
bMOVEMENT-WALLPLANE WRIST CIRCLE FRONT SINGLEfDOUBLE
bMOVEMENT-FLOORPLANE WRIST CIRCLE HITTING WALL SINGLEgDOUBLE
bMOVEMENT-WALLPLANE FINGER CIRCLES SINGLEeDOUBLE
bMOVEMENT-FLOORPLANE FINGER CIRCLES HITTING WALL SINGLEgDOUBLEbDYNAMIC ARROWHEAD SMALLdLARGEcFAST
cSLOWcTENSEcRELAXEDcSIMULTANEOUSdALTERNATINGcEVERY OTHER TIMEcGRADUALbHEADcRIM
cMOVEMENT-WALLPLANE STRAIGHTdTILTcMOVEMENT-FLOORPLANE STRAIGHTcMOVEMENT-WALLPLANE CURVE
cMOVEMENT-FLOORPLANE CURVEcMOVEMENT CIRCLEbFACE DIRECTION POSITION NOSE FORWARD TILTINGfUP OR DOWN
iTILTINGbEYEBROWS STRAIGHT UPdNEUTRALdDOWNbDREAMY EYEBROWS NEUTRAL DOWNdDOWN NEUTRALdUP NEUTRAL
dNEUTRAL UPbFOREHEAD NEUTRALcCONTACTcWRINKLEDbEYES OPENcSQUEEZEDcCLOSEDbEYE BLINK SINGLEdMULTIPLE
bEYES HALF OPENcWIDE OPENcHALF CLOSEDcWIDENING MOVEMENTbEYE WINKbEYELASHES UPcDOWNcFLUTTERING
bEYEGAZE-WALLPLANE STRAIGHTdDOUBLEdALTERNATINGbEYEGAZE-FLOORPLANE STRAIGHTdDOUBLEdALTERNATING
bEYEGAZE-WALLPLANE CURVEDbEYEGAZE-FLOORPLANE CURVEDbEYEGAZE-WALLPLANE CIRCLINGbCHEEKS PUFFED
cNEUTRALcSUCKEDbTENSE CHEEKS HIGHdMIDDLEdLOWbEARSbNOSE NEUTRALcCONTACTcWRINKLEScWIGGLES
bAIR BLOWING OUTcSUCKING INcBLOW SMALL ROTATIONScSUCK SMALL ROTATIONSbBREATH INHALEcEXHALE
bMOUTH CLOSED NEUTRALdFORWARDdCONTACTcSMILEdWRINKLEDdOPENcFROWNdWRINKLEDdOPENcOPEN CIRCLEdFORWARD
dWRINKLEDdOVALeWRINKLEDeYAWNdRECTANGLEeWRINKLEDeYAWNcKISSdFORWARDdWRINKLEDcTENSEdFORWARDdSUCKED
bLIPS PRESSED TOGETHERbLIP LOWER OVER UPPERcUPPER OVER LOWERbMOUTH CORNERScWRINKLES SINGLEdDOUBLE
bTONGUE STICKING OUT FARcLICKING LIPScTIP BETWEEN LIPSdTOUCHING INSIDE MOUTHcINSIDE MOUTH RELAXED
cMOVES AGAINST CHEEKcCENTRE STICKING OUTdINSIDE MOUTHbTEETHcMOVEMENTcON TONGUEeMOVEMENTdLIPS
eMOVEMENTcBITE LIPSbMOVEMENT-WALLPLANE JAWbMOVEMENT-FLOORPLANE JAWbNECKbHAIRbEXCITEMENT
bSHOULDER HIP SPINEdPOSITIONSbWALLPLANE SHOULDER HIP MOVEbFLOORPLANE SHOULDER HIP MOVE
bSHOULDER TILTING FROM WAISTbTORSO-WALLPLANE STRAIGHT STRETCHcCURVED BEND
bTORSO-FLOORPLANE TWISTINGbUPPER BODY TILTING FROM HIP JOINTSbLIMB COMBINATIONcLENGTH-1cLENGTH-2
cLENGTH-3cLENGTH-4cLENGTH-5cLENGTH-6cLENGTH-7bFINGERbLOCATION-WALLPLANE SPACE
bLOCATION-FLOORPLANE SPACEbLOCATION HEIGHTcWIDTHcDEPTHcHEAD NECKcTORSOcLIMBS DIGITSbCOMMA
bFULL STOPbSEMICOLONbCOLONbPARENTHESIS@1DA9BbFILL MODIFIER-2cMODIFIER-3cMODIFIER-4cMODIFIER-5
cMODIFIER-6@1DAA1bROTATION MODIFIER-2cMODIFIER-3cMODIFIER-4cMODIFIER-5cMODIFIER-6cMODIFIER-7
cMODIFIER-8cMODIFIER-9cMODIFIER-10cMODIFIER-11cMODIFIER-12cMODIFIER-13cMODIFIER-14cMODIFIER-15
cMODIFIER-16@1DF00aLATIN SMALL LETTER FENG DIGRAPH WITH TRILLdREVERSED SCRIPT G
bLETTER SMALL CAPITAL TURNED GbSMALL LETTER REVERSED KbLETTER SMALL CAPITAL L WITH BELT
bSMALL LETTER LEZH WITH RETROFLEX HOOKdTURNED Y WITH BELTdREVERSED ENG
dTURNED R WITH LONG LEG AND RETROFLEX HOOKdT WITH HOOK AND RETROFLEX HOOK
bLETTER RETROFLEX CLICK WITH RETROFLEX HOOKbSMALL LETTER ESH WITH DOUBLE BARhAND CURL
dTURNED T WITH CURLbLETTER INVERTED GLOTTAL STOP WITH CURLcSTRETCHED C WITH CURL
cSMALL CAPITAL TURNED KbSMALL LETTER L WITH FISHHOOKdDEZH DIGRAPH WITH PALATAL HOOK
dL WITH BELT AND PALATAL HOOKdENG WITH PALATAL HOOKdTURNED R WITH PALATAL HOOK
dR WITH FISHHOOK AND PALATAL HOOKdTESH DIGRAPH WITH PALATAL HOOKdEZH WITH PALATAL HOOK
dDEZH DIGRAPH WITH RETROFLEX HOOKdI WITH STROKE AND RETROFLEX HOOKdO WITH RETROFLEX HOOK
dTESH DIGRAPH WITH RETROFLEX HOOKdC WITH RETROFLEX HOOKdS WITH CURL
@1DF25dD WITH MID-HEIGHT LEFT HOOKdL WITH MID-HEIGHT LEFT HOOKdN WITH MID-HEIGHT LEFT HOOK
dR WITH MID-HEIGHT LEFT HOOKdS WITH MID-HEIGHT LEFT HOOKdT WITH MID-HEIGHT LEFT HOOK
@1E000aCOMBINING GLAGOLITIC LETTER AZUdBUKYdVEDEdGLAGOLIdDOBROdYESTUdZHIVETE@1E008dZEMLJAdIZHE
dINITIAL IZHEdIdDJERVIdKAKOdLJUDIJEdMYSLITEdNASHIdONUdPOKOJIdRITSIdSLOVOdTVRIDOdUKUdFRITUdHERU
@1E01BdSHTAdTSIdCHRIVIdSHAdYERUdYERIdYATI@1E023dYUdSMALL YUS@1E026dYOdIOTATED SMALL YUSdBIG YUS
dIOTATED BIG YUSdFITA@1E030aMODIFIER LETTER CYRILLIC SMALL AeBEeVEeGHEeDEeIEeZHEeZEeIeKAeELeEMeO
ePEeEReESeTEeUeEFeHAeTSEeCHEeSHAeYERUeEeYUeDZZEeSCHWAeBYELORUSSIAN-UKRAINIAN IeJEeBARRED O
eSTRAIGHT UePALOCHKAaCYRILLIC SUBSCRIPT SMALL LETTER AeBEeVEeGHEeDEeIEeZHEeZEeIeKAeELeOePEeESeUeEF
eHAeTSEeCHEeSHAeHARD SIGNeYERUeGHE WITH UPTURNeBYELORUSSIAN-UKRAINIAN IeDZEeDZHE
aMODIFIER LETTER CYRILLIC SMALL ES WITH DESCENDEReYERU WITH BACK YEReSTRAIGHT U WITH STROKE
@1E08FaCOMBINING CYRILLIC SMALL LETTER BYELORUSSIAN-UKRAINIAN I
@1E100aNYIAKENG PUACHUE HMONG LETTER MAeTSAeNTAeTAeHAeNAeXAeNKAeCAeLAeSAeZAeNCAeNTSAeKAeDAeNYAeNRA
eVAeNTXAeTXAeFAeRAeQAeYAeNQAePAeXYAeNPAeDLAeNPLAeHAHeMLAePLAeGAeRRAeAeAAeIeUeOeOOeEeEEeW
@1E130dTONE-BdTONE-MdTONE-JdTONE-VdTONE-SdTONE-GdTONE-DdSIGN FOR PERSONfTHINGfLOCATIONfANIMAL
fINVERTEBRATEeXW XWdSYLLABLE LENGTHENER@1E140dDIGIT ZEROeONEeTWOeTHREEeFOUReFIVEeSIXeSEVENeEIGHT
eNINE@1E14EdLOGOGRAM NYAJdCIRCLED CA@1E290aTOTO LETTER PAcBAcTAcDAcKAcGAcMAcNAcNGAcSAcCHAcYAcWAcJA
cHAcRAcLAcIcBREATHY IcIUcBREATHY IUcUcEcBREATHY EcEOcBREATHY EOcOcAEcBREATHY AEcAbSIGN RISING TONE
@1E2C0aWANCHO LETTER AAcAcBAcCAcDAcGAcYAcPHAcLAcNAcPAcTAcTHAcFAcSAcSHAcJAcZAcWAcVAcKAcOcAUcRAcMA
cKHAcHAcEcIcNGAcUcLLHAcTSAcTRAcONGcAANGcANGcINGcONcENcAANcNYAcUENcYIHbTONE TUPcTUPNIcKOIcKOINI
bDIGIT ZEROcONEcTWOcTHREEcFOURcFIVEcSIXcSEVENcEIGHTcNINE@1E2FFbNGUN SIGN
@1E4D0aNAG MUNDARI LETTER OdOPdOLdOYdONGdAdAJdABdANYdAHdIdISdIDDdITdIHdUdUCdUDdUKdURdEdENNdEGdEM
dENdETTdELLcSIGN OJODdMUHORdTOYORdIKIRdSUTUHcDIGIT ZEROdONEdTWOdTHREEdFOURdFIVEdSIXdSEVENdEIGHT
dNINE@1E7E0aETHIOPIC SYLLABLE HHYAcHHYUcHHYIcHHYAAcHHYEEcHHYEcHHYO@1E7E8cGURAGE HHWAcHHWIcHHWEE
cHHWE@1E7EDcGURAGE MWIdMWEE@1E7F0dQWIdQWEEdQWEdBWIdBWEEdKWIdKWEEdKWEdGWIdGWEEdGWEdFWIdFWEEdPWI
dPWEE@1E800aMENDE KIKAKUI SYLLABLE M001 KIdM002 KAdM003 KUdM065 KEEdM095 KEdM076 KOOdM048 KO
dM179 KUAdM004 WIdM005 WAdM006 WUdM126 WEEdM118 WEdM114 WOOdM045 WOdM194 WUIdM143 WEIdM061 WVI
dM049 WVAdM139 WVEdM007 MINdM008 MANdM009 MUNdM059 MENdM094 MONdM154 MUANdM189 MUENdM010 BI
dM011 BAdM012 BUdM150 BEEdM097 BEdM103 BOOdM138 BOdM013 IdM014 AdM015 UdM163 EEdM100 EdM165 OO
dM147 OdM137 EIdM131 INdM135 INdM195 ANdM178 ENdM019 SIdM020 SAdM021 SUdM162 SEEdM116 SEdM136 SOO
dM079 SOdM196 SIAdM025 LIdM026 LAdM027 LUdM084 LEEdM073 LEdM054 LOOdM153 LOdM110 LONG LEdM016 DI
dM017 DAdM018 DUdM089 DEEdM180 DOOdM181 DOdM022 TIdM023 TAdM024 TUdM091 TEEdM055 TEdM104 TOO
dM069 TOdM028 JIdM029 JAdM030 JUdM157 JEEdM113 JEdM160 JOOdM063 JOdM175 LONG JOdM031 YIdM032 YA
dM033 YUdM109 YEEdM080 YEdM141 YOOdM121 YOdM034 FIdM035 FAdM036 FUdM078 FEEdM075 FEdM133 FOO
dM088 FOdM197 FUAdM101 FANdM037 NINdM038 NANdM039 NUNdM117 NENdM169 NONdM176 HIdM041 HAdM186 HU
dM040 HEEdM096 HEdM042 HOOdM140 HOdM083 HEEIdM128 HOOUdM053 HINdM130 HANdM087 HUNdM052 HEN
dM193 HONdM046 HUANdM090 NGGIdM043 NGGAdM082 NGGUdM115 NGGEEdM146 NGGEdM156 NGGOOdM120 NGGO
dM159 NGGAAdM127 NGGUAdM086 LONG NGGEdM106 LONG NGGOOdM183 LONG NGGOdM155 GIdM111 GAdM168 GU
dM190 GEEdM166 GUEIdM167 GUANdM184 NGENdM057 NGONdM177 NGUANdM068 PIdM099 PAdM050 PUdM081 PEE
dM051 PEdM102 POOdM066 POdM145 MBIdM062 MBAdM122 MBUdM047 MBEEdM188 MBEEdM072 MBEdM172 MBOO
dM174 MBOdM187 MBUUdM161 LONG MBEdM105 LONG MBOOdM142 LONG MBOdM132 KPIdM092 KPAdM074 KPU
dM044 KPEEdM108 KPEdM112 KPOOdM158 KPOdM124 GBIdM056 GBAdM148 GBUdM093 GBEEdM107 GBEdM071 GBOO
dM070 GBOdM171 RAdM123 NDIdM129 NDAdM125 NDUdM191 NDEEdM119 NDEdM067 NDOOdM064 NDOdM152 NJA
dM192 NJUdM149 NJEEdM134 NJOOdM182 VIdM185 VAdM151 VUdM173 VEEdM085 VEdM144 VOOdM077 VOdM164 NYIN
dM058 NYANdM170 NYUNdM098 NYENdM060 NYON@1E8C7cDIGIT ONEdTWOdTHREEdFOURdFIVEdSIXdSEVENdEIGHTdNINE
cCOMBINING NUMBER TEENSeTENSeHUNDREDSeTHOUSANDSeTEN THOUSANDSeHUNDRED THOUSANDSeMILLIONS
@1E900aADLAM CAPITAL LETTER ALIFdDAALIdLAAMdMIIMdBAdSINNYIIYHEdPEdBHEdRAdEdFAdIdOdDHAdYHEdWAWdNUN
dKAFdYAdUdJIIMdCHIdHAdQAAFdGAdNYAdTUdNHAdVAdKHAdGBEdZALdKPOdSHAbSMALL LETTER ALIFdDAALIdLAAMdMIIM
dBAdSINNYIIYHEdPEdBHEdRAdEdFAdIdOdDHAdYHEdWAWdNUNdKAFdYAdUdJIIMdCHIdHAdQAAFdGAdNYAdTUdNHAdVAdKHA
dGBEdZALdKPOdSHAbALIF LENGTHENERbVOWEL LENGTHENERbGEMINATION MARKbHAMZAbCONSONANT MODIFIER
bGEMINATE CONSONANT MODIFIERbNUKTAbNASALIZATION MARK@1E950bDIGIT ZEROcONEcTWOcTHREEcFOURcFIVEcSIX
cSEVENcEIGHTcNINE@1E95EbINITIAL EXCLAMATION MARKcQUESTION MARK@1EC71aINDIC SIYAQ NUMBER ONEdTWO
dTHREEdFOURdFIVEdSIXdSEVENdEIGHTdNINEdTENdTWENTYdTHIRTYdFORTYdFIFTYdSIXTYdSEVENTYdEIGHTYdNINETY
dONE HUNDREDdTWO HUNDREDdTHREE HUNDREDdFOUR HUNDREDdFIVE HUNDREDdSIX HUNDREDdSEVEN HUNDRED
dEIGHT HUNDREDdNINE HUNDREDdONE THOUSANDdTWO THOUSANDdTHREE THOUSANDdFOUR THOUSANDdFIVE THOUSAND
dSIX THOUSANDdSEVEN THOUSANDdEIGHT THOUSANDdNINE THOUSANDdTEN THOUSANDdTWENTY THOUSAND
dTHIRTY THOUSANDdFORTY THOUSANDdFIFTY THOUSANDdSIXTY THOUSANDdSEVENTY THOUSANDdEIGHTY THOUSAND
dNINETY THOUSANDdLAKHdLAKHANcLAKH MARKcNUMBER KARORdKARORANdPREFIXED ONEeTWOeTHREEeFOUReFIVEeSIX
eSEVENeEIGHTeNINEcPLACEHOLDERcFRACTION ONE QUARTEReHALFdTHREE QUARTERScRUPEE MARK
cNUMBER ALTERNATE ONEeTWOeTEN THOUSANDcALTERNATE LAKH MARK@1ED01aOTTOMAN SIYAQ NUMBER ONEdTWO
dTHREEdFOURdFIVEdSIXdSEVENdEIGHTdNINEdTENdTWENTYdTHIRTYdFORTYdFIFTYdSIXTYdSEVENTYdEIGHTYdNINETY
dONE HUNDREDdTWO HUNDREDdTHREE HUNDREDdFOUR HUNDREDdFIVE HUNDREDdSIX HUNDREDdSEVEN HUNDRED
dEIGHT HUNDREDdNINE HUNDREDdONE THOUSANDdTWO THOUSANDdTHREE THOUSANDdFOUR THOUSANDdFIVE THOUSAND
dSIX THOUSANDdSEVEN THOUSANDdEIGHT THOUSANDdNINE THOUSANDdTEN THOUSANDdTWENTY THOUSAND
dTHIRTY THOUSANDdFORTY THOUSANDdFIFTY THOUSANDdSIXTY THOUSANDdSEVENTY THOUSANDdEIGHTY THOUSAND
dNINETY THOUSANDcMARRATANcALTERNATE NUMBER TWOeTHREEeFOUReFIVEeSIXeSEVENeEIGHTeNINEeTEN
eFOUR HUNDREDeSIX HUNDREDeTWO THOUSANDeTEN THOUSANDcFRACTION ONE HALFeSIXTH
@1EE00aARABIC MATHEMATICAL ALEFcBEHcJEEMcDAL@1EE05cWAWcZAINcHAHcTAHcYEHcKAFcLAMcMEEMcNOONcSEENcAIN
cFEHcSADcQAFcREHcSHEENcTEHcTHEHcKHAHcTHALcDADcZAHcGHAINcDOTLESS BEHdNOONdFEHdQAF@1EE21cINITIAL BEH
dJEEM@1EE24dHEH@1EE27dHAH@1EE29dYEHdKAFdLAMdMEEMdNOONdSEENdAINdFEHdSADdQAF@1EE34dSHEENdTEHdTHEH
dKHAH@1EE39dDAD@1EE3BdGHAIN@1EE42cTAILED JEEM@1EE47dHAH@1EE49dYEH@1EE4BdLAM@1EE4DdNOONdSEENdAIN
@1EE51dSADdQAF@1EE54dSHEEN@1EE57dKHAH@1EE59dDAD@1EE5BdGHAIN@1EE5DdDOTLESS NOON@1EE5FeQAF
@1EE61cSTRETCHED BEHdJEEM@1EE64dHEH@1EE67dHAHdTAHdYEHdKAF@1EE6CdMEEMdNOONdSEENdAINdFEHdSADdQAF
@1EE74dSHEENdTEHdTHEHdKHAH@1EE79dDADdZAHdGHAINdDOTLESS BEH@1EE7EeFEH@1EE80cLOOPED ALEFdBEHdJEEM
dDALdHEHdWAWdZAINdHAHdTAHdYEH@1EE8BdLAMdMEEMdNOONdSEENdAINdFEHdSADdQAFdREHdSHEENdTEHdTHEHdKHAH
dTHALdDADdZAHdGHAIN@1EEA1cDOUBLE-STRUCK BEHdJEEMdDAL@1EEA5dWAWdZAINdHAHdTAHdYEH@1EEABdLAMdMEEM
dNOONdSEENdAINdFEHdSADdQAFdREHdSHEENdTEHdTHEHdKHAHdTHALdDADdZAHdGHAIN
@1EEF0cOPERATOR MEEM WITH HAH WITH TATWEELdHAH WITH DAL@1F000aMAHJONG TILE EAST WINDcSOUTH WIND
cWEST WINDcNORTH WINDcRED DRAGONcGREEN DRAGONcWHITE DRAGONcONE OF CHARACTERScTWO OF CHARACTERS
cTHREE OF CHARACTERScFOUR OF CHARACTERScFIVE OF CHARACTERScSIX OF CHARACTERScSEVEN OF CHARACTERS
cEIGHT OF CHARACTERScNINE OF CHARACTERScONE OF BAMBOOScTWO OF BAMBOOScTHREE OF BAMBOOS
cFOUR OF BAMBOOScFIVE OF BAMBOOScSIX OF BAMBOOScSEVEN OF BAMBOOScEIGHT OF BAMBOOScNINE OF BAMBOOS
cONE OF CIRCLEScTWO OF CIRCLEScTHREE OF CIRCLEScFOUR OF CIRCLEScFIVE OF CIRCLEScSIX OF CIRCLES
cSEVEN OF CIRCLEScEIGHT OF CIRCLEScNINE OF CIRCLEScPLUMcORCHIDcBAMBOOcCHRYSANTHEMUMcSPRINGcSUMMER
cAUTUMNcWINTERcJOKERcBACK@1F030aDOMINO TILE HORIZONTAL BACKcHORIZONTAL-00-00cHORIZONTAL-00-01
cHORIZONTAL-00-02cHORIZONTAL-00-03cHORIZONTAL-00-04cHORIZONTAL-00-05cHORIZONTAL-00-06
cHORIZONTAL-01-00cHORIZONTAL-01-01cHORIZONTAL-01-02cHORIZONTAL-01-03cHORIZONTAL-01-04
cHORIZONTAL-01-05cHORIZONTAL-01-06cHORIZONTAL-02-00cHORIZONTAL-02-01cHORIZONTAL-02-02
cHORIZONTAL-02-03cHORIZONTAL-02-04cHORIZONTAL-02-05cHORIZONTAL-02-06cHORIZONTAL-03-00
cHORIZONTAL-03-01cHORIZONTAL-03-02cHORIZONTAL-03-03cHORIZONTAL-03-04cHORIZONTAL-03-05
cHORIZONTAL-03-06cHORIZONTAL-04-00cHORIZONTAL-04-01cHORIZONTAL-04-02cHORIZONTAL-04-03
cHORIZONTAL-04-04cHORIZONTAL-04-05cHORIZONTAL-04-06cHORIZONTAL-05-00cHORIZONTAL-05-01
cHORIZONTAL-05-02cHORIZONTAL-05-03cHORIZONTAL-05-04cHORIZONTAL-05-05cHORIZONTAL-05-06
cHORIZONTAL-06-00cHORIZONTAL-06-01cHORIZONTAL-06-02cHORIZONTAL-06-03cHORIZONTAL-06-04
cHORIZONTAL-06-05cHORIZONTAL-06-06cVERTICAL BACKcVERTICAL-00-00cVERTICAL-00-01cVERTICAL-00-02
cVERTICAL-00-03cVERTICAL-00-04cVERTICAL-00-05cVERTICAL-00-06cVERTICAL-01-00cVERTICAL-01-01
cVERTICAL-01-02cVERTICAL-01-03cVERTICAL-01-04cVERTICAL-01-05cVERTICAL-01-06cVERTICAL-02-00
cVERTICAL-02-01cVERTICAL-02-02cVERTICAL-02-03cVERTICAL-02-04cVERTICAL-02-05cVERTICAL-02-06
cVERTICAL-03-00cVERTICAL-03-01cVERTICAL-03-02cVERTICAL-03-03cVERTICAL-03-04cVERTICAL-03-05
cVERTICAL-03-06cVERTICAL-04-00cVERTICAL-04-01cVERTICAL-04-02cVERTICAL-04-03cVERTICAL-04-04
cVERTICAL-04-05cVERTICAL-04-06cVERTICAL-05-00cVERTICAL-05-01cVERTICAL-05-02cVERTICAL-05-03
cVERTICAL-05-04cVERTICAL-05-05cVERTICAL-05-06cVERTICAL-06-00cVERTICAL-06-01cVERTICAL-06-02
cVERTICAL-06-03cVERTICAL-06-04cVERTICAL-06-05cVERTICAL-06-06@1F0A0aPLAYING CARD BACKcACE OF SPADES
cTWO OF SPADEScTHREE OF SPADEScFOUR OF SPADEScFIVE OF SPADEScSIX OF SPADEScSEVEN OF SPADES
cEIGHT OF SPADEScNINE OF SPADEScTEN OF SPADEScJACK OF SPADEScKNIGHT OF SPADEScQUEEN OF SPADES
cKING OF SPADES@1F0B1cACE OF HEARTScTWO OF HEARTScTHREE OF HEARTScFOUR OF HEARTScFIVE OF HEARTS
cSIX OF HEARTScSEVEN OF HEARTScEIGHT OF HEARTScNINE OF HEARTScTEN OF HEARTScJACK OF HEARTS
cKNIGHT OF HEARTScQUEEN OF HEARTScKING OF HEARTScRED JOKER@1F0C1cACE OF DIAMONDScTWO OF DIAMONDS
cTHREE OF DIAMONDScFOUR OF DIAMONDScFIVE OF DIAMONDScSIX OF DIAMONDScSEVEN OF DIAMONDS
cEIGHT OF DIAMONDScNINE OF DIAMONDScTEN OF DIAMONDScJACK OF DIAMONDScKNIGHT OF DIAMONDS
cQUEEN OF DIAMONDScKING OF DIAMONDScBLACK JOKER@1F0D1cACE OF CLUBScTWO OF CLUBScTHREE OF CLUBS
cFOUR OF CLUBScFIVE OF CLUBScSIX OF CLUBScSEVEN OF CLUBScEIGHT OF CLUBScNINE OF CLUBScTEN OF CLUBS
cJACK OF CLUBScKNIGHT OF CLUBScQUEEN OF CLUBScKING OF CLUBScWHITE JOKERcFOOLcTRUMP-1cTRUMP-2
cTRUMP-3cTRUMP-4cTRUMP-5cTRUMP-6cTRUMP-7cTRUMP-8cTRUMP-9cTRUMP-10cTRUMP-11cTRUMP-12cTRUMP-13
cTRUMP-14cTRUMP-15cTRUMP-16cTRUMP-17cTRUMP-18cTRUMP-19cTRUMP-20cTRUMP-21
@1F100aDIGIT ZERO FULL STOPcCOMMAbONE COMMAbTWO COMMAbTHREE COMMAbFOUR COMMAbFIVE COMMAbSIX COMMA
bSEVEN COMMAbEIGHT COMMAbNINE COMMAaDINGBAT CIRCLED SANS-SERIF DIGIT ZERO
bNEGATIVE CIRCLED SANS-SERIF DIGIT ZEROaCIRCLED ZERO WITH SLASHbANTICLOCKWISE ARROW
bDOLLAR SIGN WITH OVERLAID BACKSLASHaPARENTHESIZED LATIN CAPITAL LETTER AeBeCeDeEeFeGeHeIeJeKeLeM
eNeOePeQeReSeTeUeVeWeXeYeZaTORTOISE SHELL BRACKETED LATIN CAPITAL LETTER S
aCIRCLED ITALIC LATIN CAPITAL LETTER CfRbCDbWZaCOPYLEFT SYMBOLaSQUARED LATIN CAPITAL LETTER AeBeC
eDeEeFeGeHeIeJeKeLeMeNeOePeQeReSeTeUeVeWeXeYeZbHVbMVbSDbSSbPPVbWC
aNEGATIVE CIRCLED LATIN CAPITAL LETTER AfBfCfDfEfFfGfHfIfJfKfLfMfNfOfPfQfRfSfTfUfVfWfXfYfZ
aRAISED MC SIGNbMD SIGNbMR SIGNaCIRCLED CCbC WITH OVERLAID BACKSLASHbHUMAN FIGURE
aNEGATIVE SQUARED LATIN CAPITAL LETTER AfBfCfDfEfFfGfHfIfJfKfLfMfNfOfPfQfRfSfTfUfVfWfXfYfZ
aCROSSED NEGATIVE SQUARED LATIN CAPITAL LETTER PaNEGATIVE SQUARED ICcPAcSAcABcWCaSQUARE DJ
aSQUARED CLbCOOLbFREEbIDbNEWbNGbOKbSOSbUP WITH EXCLAMATION MARKbVSbTHREE DbSECOND SCREENbTWO K
bFOUR KbEIGHT KbFIVE POINT ONEbSEVEN POINT ONEbTWENTY-TWO POINT TWObSIXTY PbONE HUNDRED TWENTY P
bLATIN SMALL LETTER DbHCbHDRbHI-RESbLOSSLESSbSHVbUHDbVODaMASK WORK SYMBOL
@1F1E6aREGIONAL INDICATOR SYMBOL LETTER AeBeCeDeEeFeGeHeIeJeKeLeMeNeOePeQeReSeTeUeVeWeXeYeZ
aSQUARE HIRAGANA HOKAaSQUARED KATAKANA KOKOcSA@1F210bCJK UNIFIED IDEOGRAPH-624BdIDEOGRAPH-5B57
dIDEOGRAPH-53CCbKATAKANA DEbCJK UNIFIED IDEOGRAPH-4E8CdIDEOGRAPH-591AdIDEOGRAPH-89E3
dIDEOGRAPH-5929dIDEOGRAPH-4EA4dIDEOGRAPH-6620dIDEOGRAPH-7121dIDEOGRAPH-6599dIDEOGRAPH-524D
dIDEOGRAPH-5F8CdIDEOGRAPH-518DdIDEOGRAPH-65B0dIDEOGRAPH-521DdIDEOGRAPH-7D42dIDEOGRAPH-751F
dIDEOGRAPH-8CA9dIDEOGRAPH-58F0dIDEOGRAPH-5439dIDEOGRAPH-6F14dIDEOGRAPH-6295dIDEOGRAPH-6355
dIDEOGRAPH-4E00dIDEOGRAPH-4E09dIDEOGRAPH-904AdIDEOGRAPH-5DE6dIDEOGRAPH-4E2DdIDEOGRAPH-53F3
dIDEOGRAPH-6307dIDEOGRAPH-8D70dIDEOGRAPH-6253dIDEOGRAPH-7981dIDEOGRAPH-7A7AdIDEOGRAPH-5408
dIDEOGRAPH-6E80dIDEOGRAPH-6709dIDEOGRAPH-6708dIDEOGRAPH-7533dIDEOGRAPH-5272dIDEOGRAPH-55B6
dIDEOGRAPH-914D@1F240aTORTOISE SHELL BRACKETED CJK UNIFIED IDEOGRAPH-672CfIDEOGRAPH-4E09
fIDEOGRAPH-4E8CfIDEOGRAPH-5B89fIDEOGRAPH-70B9fIDEOGRAPH-6253fIDEOGRAPH-76D7fIDEOGRAPH-52DD
fIDEOGRAPH-6557@1F250aCIRCLED IDEOGRAPH ADVANTAGEcACCEPT@1F260aROUNDED SYMBOL FOR FUdLUdSHOUdXI
dSHUANGXIdCAI@1F300aCYCLONEaFOGGYaCLOSED UMBRELLAaNIGHT WITH STARSaSUNRISE OVER MOUNTAINSaSUNRISE
aCITYSCAPE AT DUSKaSUNSET OVER BUILDINGSaRAINBOWaBRIDGE AT NIGHTaWATER WAVEaVOLCANOaMILKY WAY
aEARTH GLOBE EUROPE-AFRICAcAMERICAScASIA-AUSTRALIAaGLOBE WITH MERIDIANSaNEW MOON SYMBOL
aWAXING CRESCENT MOON SYMBOLaFIRST QUARTER MOON SYMBOLaWAXING GIBBOUS MOON SYMBOLaFULL MOON SYMBOL
aWANING GIBBOUS MOON SYMBOLaLAST QUARTER MOON SYMBOLaWANING CRESCENT MOON SYMBOLaCRESCENT MOON
aNEW MOON WITH FACEaFIRST QUARTER MOON WITH FACEaLAST QUARTER MOON WITH FACEaFULL MOON WITH FACE
aSUN WITH FACEaGLOWING STARaSHOOTING STARaTHERMOMETERaBLACK DROPLETaWHITE SUNcWITH SMALL CLOUD
cBEHIND CLOUDeWITH RAINaCLOUD WITH RAINcSNOWcLIGHTNINGcTORNADOaFOGaWIND BLOWING FACEaHOT DOGaTACO
aBURRITOaCHESTNUTaSEEDLINGaEVERGREEN TREEaDECIDUOUS TREEaPALM TREEaCACTUSaHOT PEPPERaTULIP
aCHERRY BLOSSOMaROSEaHIBISCUSaSUNFLOWERaBLOSSOMaEAR OF MAIZEcRICEaHERBaFOUR LEAF CLOVERaMAPLE LEAF
aFALLEN LEAFaLEAF FLUTTERING IN WINDaMUSHROOMaTOMATOaAUBERGINEaGRAPESaMELONaWATERMELONaTANGERINE
aLEMONaBANANAaPINEAPPLEaRED APPLEaGREEN APPLEaPEARaPEACHaCHERRIESaSTRAWBERRYaHAMBURGER
aSLICE OF PIZZAaMEAT ON BONEaPOULTRY LEGaRICE CRACKERbBALLaCOOKED RICEaCURRY AND RICE
aSTEAMING BOWLaSPAGHETTIaBREADaFRENCH FRIESaROASTED SWEET POTATOaDANGOaODENaSUSHIaFRIED SHRIMP
aFISH CAKE WITH SWIRL DESIGNaSOFT ICE CREAMaSHAVED ICEaICE CREAMaDOUGHNUTaCOOKIEaCHOCOLATE BAR
aCANDYaLOLLIPOPaCUSTARDaHONEY POTaSHORTCAKEaBENTO BOXaPOT OF FOODaCOOKINGaFORK AND KNIFE
aTEACUP WITHOUT HANDLEaSAKE BOTTLE AND CUPaWINE GLASSaCOCKTAIL GLASSaTROPICAL DRINKaBEER MUG
aCLINKING BEER MUGSaBABY BOTTLEaFORK AND KNIFE WITH PLATEaBOTTLE WITH POPPING CORKaPOPCORNaRIBBON
aWRAPPED PRESENTaBIRTHDAY CAKEaJACK-O-LANTERNaCHRISTMAS TREEaFATHER CHRISTMASaFIREWORKS
aFIREWORK SPARKLERaBALLOONaPARTY POPPERaCONFETTI BALLaTANABATA TREEaCROSSED FLAGSaPINE DECORATION
aJAPANESE DOLLSaCARP STREAMERaWIND CHIMEaMOON VIEWING CEREMONYaSCHOOL SATCHELaGRADUATION CAP
aHEART WITH TIP ON THE LEFTaBOUQUET OF FLOWERSaMILITARY MEDALaREMINDER RIBBON
aMUSICAL KEYBOARD WITH JACKSaSTUDIO MICROPHONEaLEVEL SLIDERaCONTROL KNOBS
aBEAMED ASCENDING MUSICAL NOTESbDESCENDING MUSICAL NOTESaFILM FRAMESaADMISSION TICKETS
aCAROUSEL HORSEaFERRIS WHEELaROLLER COASTERaFISHING POLE AND FISHaMICROPHONEaMOVIE CAMERAaCINEMA
aHEADPHONEaARTIST PALETTEaTOP HATaCIRCUS TENTaTICKETaCLAPPER BOARDaPERFORMING ARTSaVIDEO GAME
aDIRECT HITaSLOT MACHINEaBILLIARDSaGAME DIEaBOWLINGaFLOWER PLAYING CARDSaMUSICAL NOTE
aMULTIPLE MUSICAL NOTESaSAXOPHONEaGUITARaMUSICAL KEYBOARDaTRUMPETaVIOLINaMUSICAL SCORE
aRUNNING SHIRT WITH SASHaTENNIS RACQUET AND BALLaSKI AND SKI BOOTaBASKETBALL AND HOOP
aCHEQUERED FLAGaSNOWBOARDERaRUNNERaSURFERaSPORTS MEDALaTROPHYaHORSE RACINGaAMERICAN FOOTBALL
aRUGBY FOOTBALLaSWIMMERaWEIGHT LIFTERaGOLFERaRACING MOTORCYCLEbCARaCRICKET BAT AND BALLaVOLLEYBALL
aFIELD HOCKEY STICK AND BALLaICE HOCKEY STICK AND PUCKaTABLE TENNIS PADDLE AND BALL
aSNOW CAPPED MOUNTAINaCAMPINGaBEACH WITH UMBRELLAaBUILDING CONSTRUCTIONaHOUSE BUILDINGSaCITYSCAPE
aDERELICT HOUSE BUILDINGaCLASSICAL BUILDINGaDESERTbISLANDaNATIONAL PARKaSTADIUMaHOUSE BUILDING
bWITH GARDENaOFFICE BUILDINGaJAPANESE POST OFFICEaEUROPEAN POST OFFICEaHOSPITALaBANK
aAUTOMATED TELLER MACHINEaHOTELaLOVE HOTELaCONVENIENCE STOREaSCHOOLaDEPARTMENT STOREaFACTORY
aIZAKAYA LANTERNaJAPANESE CASTLEaEUROPEAN CASTLEaWHITE PENNANTaBLACK PENNANTaWAVING WHITE FLAG
bBLACK FLAGaROSETTEaBLACK ROSETTEaLABELaBADMINTON RACQUET AND SHUTTLECOCKaBOW AND ARROWaAMPHORA
aEMOJI MODIFIER FITZPATRICK TYPE-1-2dTYPE-3dTYPE-4dTYPE-5dTYPE-6aRATaMOUSEaOXaWATER BUFFALOaCOW
aTIGERaLEOPARDaRABBITaCATaDRAGONaCROCODILEaWHALEaSNAILaSNAKEaHORSEaRAMaGOATaSHEEPaMONKEYaROOSTER
aCHICKENaDOGaPIGaBOARaELEPHANTaOCTOPUSaSPIRAL SHELLaBUGaANTaHONEYBEEaLADY BEETLEaFISH
aTROPICAL FISHaBLOWFISHaTURTLEaHATCHING CHICKaBABY CHICKaFRONT-FACING BABY CHICKaBIRDaPENGUIN
aKOALAaPOODLEaDROMEDARY CAMELaBACTRIAN CAMELaDOLPHINaMOUSE FACEaCOW FACEaTIGER FACEaRABBIT FACE
aCAT FACEaDRAGON FACEaSPOUTING WHALEaHORSE FACEaMONKEY FACEaDOG FACEaPIG FACEaFROG FACE
aHAMSTER FACEaWOLF FACEaBEAR FACEaPANDA FACEaPIG NOSEaPAW PRINTSaCHIPMUNKaEYESaEYEaEARaNOSEaMOUTH
aTONGUEaWHITE UP POINTING BACKHAND INDEXbDOWN POINTING BACKHAND INDEXbLEFT POINTING BACKHAND INDEX
bRIGHT POINTING BACKHAND INDEXaFISTED HAND SIGNaWAVING HAND SIGNaOK HAND SIGNaTHUMBS UP SIGN
bDOWN SIGNaCLAPPING HANDS SIGNaOPEN HANDS SIGNaCROWNaWOMANS HATaEYEGLASSESaNECKTIEaT-SHIRTaJEANS
aDRESSaKIMONOaBIKINIaWOMANS CLOTHESaPURSEaHANDBAGaPOUCHaMANS SHOEaATHLETIC SHOEaHIGH-HEELED SHOE
aWOMANS SANDALbBOOTSaFOOTPRINTSaBUST IN SILHOUETTEaBUSTS IN SILHOUETTEaBOYaGIRLaMANaWOMANaFAMILY
aMAN AND WOMAN HOLDING HANDSaTWO MEN HOLDING HANDSbWOMEN HOLDING HANDSaPOLICE OFFICER
aWOMAN WITH BUNNY EARSaBRIDE WITH VEILaPERSON WITH BLOND HAIRaMAN WITH GUA PI MAOcTURBANaOLDER MAN
bWOMANaBABYaCONSTRUCTION WORKERaPRINCESSaJAPANESE OGREbGOBLINaGHOSTaBABY ANGEL
aEXTRATERRESTRIAL ALIENaALIEN MONSTERaIMPaSKULLaINFORMATION DESK PERSONaGUARDSMANaDANCERaLIPSTICK
aNAIL POLISHaFACE MASSAGEaHAIRCUTaBARBER POLEaSYRINGEaPILLaKISS MARKaLOVE LETTERaRINGaGEM STONE
aKISSaBOUQUETaCOUPLE WITH HEARTaWEDDINGaBEATING HEARTaBROKEN HEARTaTWO HEARTSaSPARKLING HEART
aGROWING HEARTaHEART WITH ARROWaBLUE HEARTaGREEN HEARTaYELLOW HEARTaPURPLE HEARTaHEART WITH RIBBON
aREVOLVING HEARTSaHEART DECORATIONaDIAMOND SHAPE WITH A DOT INSIDEaELECTRIC LIGHT BULB
aANGER SYMBOLaBOMBaSLEEPING SYMBOLaCOLLISION SYMBOLaSPLASHING SWEAT SYMBOLaDROPLETaDASH SYMBOL
aPILE OF POOaFLEXED BICEPSaDIZZY SYMBOLaSPEECH BALLOONaTHOUGHT BALLOONaWHITE FLOWER
aHUNDRED POINTS SYMBOLaMONEY BAGaCURRENCY EXCHANGEaHEAVY DOLLAR SIGNaCREDIT CARD
aBANKNOTE WITH YEN SIGNcDOLLAR SIGNcEURO SIGNcPOUND SIGNaMONEY WITH WINGS
aCHART WITH UPWARDS TREND AND YEN SIGNaSEATaPERSONAL COMPUTERaBRIEFCASEaMINIDISCaFLOPPY DISK
aOPTICAL DISCaDVDaFILE FOLDERaOPEN FILE FOLDERaPAGE WITH CURLbFACING UPaCALENDARaTEAR-OFF CALENDAR
aCARD INDEXaCHART WITH UPWARDS TRENDcDOWNWARDS TRENDaBAR CHARTaCLIPBOARDaPUSHPINaROUND PUSHPIN
aPAPERCLIPaSTRAIGHT RULERaTRIANGULAR RULERaBOOKMARK TABSaLEDGERaNOTEBOOKbWITH DECORATIVE COVER
aCLOSED BOOKaOPEN BOOKaGREEN BOOKaBLUE BOOKaORANGE BOOKaBOOKSaNAME BADGEaSCROLLaMEMO
aTELEPHONE RECEIVERaPAGERaFAX MACHINEaSATELLITE ANTENNAaPUBLIC ADDRESS LOUDSPEAKER
aCHEERING MEGAPHONEaOUTBOX TRAYaINBOX TRAYaPACKAGEaE-MAIL SYMBOLaINCOMING ENVELOPE
aENVELOPE WITH DOWNWARDS ARROW ABOVEaCLOSED MAILBOX WITH LOWERED FLAGdRAISED FLAG
aOPEN MAILBOX WITH RAISED FLAGdLOWERED FLAGaPOSTBOXaPOSTAL HORNaNEWSPAPERaMOBILE PHONE
cWITH RIGHTWARDS ARROW AT LEFTaVIBRATION MODEaMOBILE PHONE OFFaNO MOBILE PHONESaANTENNA WITH BARS
aCAMERAbWITH FLASHaVIDEO CAMERAaTELEVISIONaRADIOaVIDEOCASSETTEaFILM PROJECTORaPORTABLE STEREO
aPRAYER BEADSaTWISTED RIGHTWARDS ARROWSaCLOCKWISE RIGHTWARDS AND LEFTWARDS OPEN CIRCLE ARROWS
hWITH CIRCLED ONE OVERLAYbDOWNWARDS AND UPWARDS OPEN CIRCLE ARROWS
aANTICLOCKWISE DOWNWARDS AND UPWARDS OPEN CIRCLE ARROWSaLOW BRIGHTNESS SYMBOL
aHIGH BRIGHTNESS SYMBOLaSPEAKER WITH CANCELLATION STROKEaSPEAKERbWITH ONE SOUND WAVE
cTHREE SOUND WAVESaBATTERYaELECTRIC PLUGaLEFT-POINTING MAGNIFYING GLASS
aRIGHT-POINTING MAGNIFYING GLASSaLOCK WITH INK PENaCLOSED LOCK WITH KEYaKEYaLOCKaOPEN LOCKaBELL
bWITH CANCELLATION STROKEaBOOKMARKaLINK SYMBOLaRADIO BUTTONaBACK WITH LEFTWARDS ARROW ABOVE
aEND WITH LEFTWARDS ARROW ABOVEaON WITH EXCLAMATION MARK WITH LEFT RIGHT ARROW ABOVE
aSOON WITH RIGHTWARDS ARROW ABOVEaTOP WITH UPWARDS ARROW ABOVEaNO ONE UNDER EIGHTEEN SYMBOL
aKEYCAP TENaINPUT SYMBOL FOR LATIN CAPITAL LETTERSeSMALL LETTERSdNUMBERSdSYMBOLSdLATIN LETTERS
aFIREaELECTRIC TORCHaWRENCHaHAMMERaNUT AND BOLTaHOCHOaPISTOLaMICROSCOPEaTELESCOPEaCRYSTAL BALL
aSIX POINTED STAR WITH MIDDLE DOTaJAPANESE SYMBOL FOR BEGINNERaTRIDENT EMBLEMaBLACK SQUARE BUTTON
aWHITE SQUARE BUTTONaLARGE RED CIRCLEbBLUE CIRCLEbORANGE DIAMONDbBLUE DIAMONDaSMALL ORANGE DIAMOND
bBLUE DIAMONDaUP-POINTING RED TRIANGLEaDOWN-POINTING RED TRIANGLEaUP-POINTING SMALL RED TRIANGLE
aDOWN-POINTING SMALL RED TRIANGLEaLOWER RIGHT SHADOWED WHITE CIRCLE
aUPPER RIGHT SHADOWED WHITE CIRCLEaCIRCLED CROSS POMMEEaCROSS POMMEE WITH HALF-CIRCLE BELOWbPOMMEE
aNOTCHED LEFT SEMICIRCLE WITH THREE DOTSbRIGHT SEMICIRCLE WITH THREE DOTSaSYMBOL FOR MARKS CHAPTER
aWHITE LATIN CROSSaHEAVY LATIN CROSSaCELTIC CROSSaOM SYMBOLaDOVE OF PEACEaKAABAaMOSQUEaSYNAGOGUE
aMENORAH WITH NINE BRANCHESaBOWL OF HYGIEIAaCLOCK FACE ONE OCLOCKcTWO OCLOCKcTHREE OCLOCK
cFOUR OCLOCKcFIVE OCLOCKcSIX OCLOCKcSEVEN OCLOCKcEIGHT OCLOCKcNINE OCLOCKcTEN OCLOCKcELEVEN OCLOCK
cTWELVE OCLOCKcONE-THIRTYcTWO-THIRTYcTHREE-THIRTYcFOUR-THIRTYcFIVE-THIRTYcSIX-THIRTYcSEVEN-THIRTY
cEIGHT-THIRTYcNINE-THIRTYcTEN-THIRTYcELEVEN-THIRTYcTWELVE-THIRTYaRIGHT SPEAKERcWITH ONE SOUND WAVE
dTHREE SOUND WAVESaBULLHORNbWITH SOUND WAVESaRINGING BELLaBOOKaCANDLEaMANTELPIECE CLOCK
aBLACK SKULL AND CROSSBONESaNO PIRACYaHOLEaMAN IN BUSINESS SUIT LEVITATINGaSLEUTH OR SPY
aDARK SUNGLASSESaSPIDERbWEBaJOYSTICKaMAN DANCINGaLEFT HAND TELEPHONE RECEIVER
aTELEPHONE RECEIVER WITH PAGEaRIGHT HAND TELEPHONE RECEIVERaWHITE TOUCHTONE TELEPHONE
aBLACK TOUCHTONE TELEPHONEaTELEPHONE ON TOP OF MODEMaCLAMSHELL MOBILE PHONEaBACK OF ENVELOPE
aSTAMPED ENVELOPEaENVELOPE WITH LIGHTNINGaFLYING ENVELOPEaPEN OVER STAMPED ENVELOPE
aLINKED PAPERCLIPSaBLACK PUSHPINaLOWER LEFT PENCILcBALLPOINT PENcFOUNTAIN PENcPAINTBRUSHcCRAYON
aLEFT WRITING HANDaTURNED OK HAND SIGNaRAISED HAND WITH FINGERS SPLAYED
aREVERSED RAISED HAND WITH FINGERS SPLAYEDbTHUMBS UP SIGNcDOWN SIGNbVICTORY HAND
bHAND WITH MIDDLE FINGER EXTENDEDaRAISED HAND WITH PART BETWEEN MIDDLE AND RING FINGERS
aWHITE DOWN POINTING LEFT HAND INDEXaSIDEWAYS WHITE LEFT POINTING INDEXcRIGHT POINTING INDEX
bBLACK LEFT POINTING INDEXcRIGHT POINTING INDEXaBLACK LEFT POINTING BACKHAND INDEX
bRIGHT POINTING BACKHAND INDEXaSIDEWAYS WHITE UP POINTING INDEXcDOWN POINTING INDEX
bBLACK UP POINTING INDEXcDOWN POINTING INDEXaBLACK UP POINTING BACKHAND INDEX
bDOWN POINTING BACKHAND INDEXbHEARTaDESKTOP COMPUTERaKEYBOARD AND MOUSEaTHREE NETWORKED COMPUTERS
aPRINTERaPOCKET CALCULATORaBLACK HARD SHELL FLOPPY DISKaWHITE HARD SHELL FLOPPY DISK
aSOFT SHELL FLOPPY DISKaTAPE CARTRIDGEaWIRED KEYBOARDaONE BUTTON MOUSEaTWO BUTTON MOUSE
aTHREE BUTTON MOUSEaTRACKBALLaOLD PERSONAL COMPUTERaHARD DISKaSCREENaPRINTER ICONaFAX ICON
aOPTICAL DISC ICONaDOCUMENT WITH TEXTdAND PICTUREcPICTUREaFRAME WITH PICTUREcTILEScAN X
aBLACK FOLDERaFOLDERaOPEN FOLDERaCARD INDEX DIVIDERSbFILE BOXaFILE CABINETaEMPTY NOTEcPAGEcPAD
aNOTEbPAGEbPADaEMPTY DOCUMENTbPAGEbPAGESaDOCUMENTaPAGEaPAGESaWASTEBASKETaSPIRAL NOTE PAD
bCALENDAR PADaDESKTOP WINDOWaMINIMIZEaMAXIMIZEaOVERLAPaCLOCKWISE RIGHT AND LEFT SEMICIRCLE ARROWS
aCANCELLATION XaINCREASE FONT SIZE SYMBOLaDECREASE FONT SIZE SYMBOLaCOMPRESSIONaOLD KEY
aROLLED-UP NEWSPAPERaPAGE WITH CIRCLED TEXTaSTOCK CHARTaDAGGER KNIFEaLIPS
aSPEAKING HEAD IN SILHOUETTEaTHREE RAYS ABOVEcBELOWcLEFTcRIGHTaLEFT SPEECH BUBBLE
aRIGHT SPEECH BUBBLEaTWO SPEECH BUBBLESaTHREE SPEECH BUBBLESaLEFT THOUGHT BUBBLE
aRIGHT THOUGHT BUBBLEaLEFT ANGER BUBBLEaRIGHT ANGER BUBBLEaMOOD BUBBLEaLIGHTNING MOOD BUBBLEbMOOD
aBALLOT BOX WITH BALLOTbSCRIPT XbBOX WITH SCRIPT XbBOLD SCRIPT XbBOX WITH BOLD SCRIPT X
aLIGHT CHECK MARKaBALLOT BOX WITH BOLD CHECKaWORLD MAPaMOUNT FUJIaTOKYO TOWERaSTATUE OF LIBERTY
aSILHOUETTE OF JAPANaMOYAIaGRINNING FACEcWITH SMILING EYESaFACE WITH TEARS OF JOY
aSMILING FACE WITH OPEN MOUTHfAND SMILING EYESgCOLD SWEATgTIGHTLY-CLOSED EYESdHALOdHORNS
aWINKING FACEaSMILING FACE WITH SMILING EYESaFACE SAVOURING DELICIOUS FOODaRELIEVED FACE
aSMILING FACE WITH HEART-SHAPED EYESdSUNGLASSESaSMIRKING FACEaNEUTRAL FACEaEXPRESSIONLESS FACE
aUNAMUSED FACEaFACE WITH COLD SWEATaPENSIVE FACEaCONFUSED FACEaCONFOUNDED FACEaKISSING FACE
aFACE THROWING A KISSaKISSING FACE WITH SMILING EYESdCLOSED EYESaFACE WITH STUCK-OUT TONGUE
eAND WINKING EYEfTIGHTLY-CLOSED EYESaDISAPPOINTED FACEaWORRIED FACEaANGRY FACEaPOUTING FACE
aCRYING FACEaPERSEVERING FACEaFACE WITH LOOK OF TRIUMPHaDISAPPOINTED BUT RELIEVED FACE
aFROWNING FACE WITH OPEN MOUTHaANGUISHED FACEaFEARFUL FACEaWEARY FACEaSLEEPY FACEaTIRED FACE
aGRIMACING FACEaLOUDLY CRYING FACEaFACE WITH OPEN MOUTHaHUSHED FACE
aFACE WITH OPEN MOUTH AND COLD SWEATbSCREAMING IN FEARaASTONISHED FACEaFLUSHED FACEaSLEEPING FACE
aDIZZY FACEaFACE WITHOUT MOUTHbWITH MEDICAL MASKaGRINNING CAT FACE WITH SMILING EYES
aCAT FACE WITH TEARS OF JOYaSMILING CAT FACE WITH OPEN MOUTHeHEART-SHAPED EYES
aCAT FACE WITH WRY SMILEaKISSING CAT FACE WITH CLOSED EYESaPOUTING CAT FACEaCRYING CAT FACE
aWEARY CAT FACEaSLIGHTLY FROWNING FACEbSMILING FACEaUPSIDE-DOWN FACEaFACE WITH ROLLING EYES
cNO GOOD GESTUREcOK GESTUREaPERSON BOWING DEEPLYaSEE-NO-EVIL MONKEYaHEAR-NO-EVIL MONKEY
aSPEAK-NO-EVIL MONKEYaHAPPY PERSON RAISING ONE HANDaPERSON RAISING BOTH HANDS IN CELEBRATION
bFROWNINGbWITH POUTING FACEcFOLDED HANDSaNORTH WEST POINTING LEAFaSOUTH WEST POINTING LEAF
aNORTH EAST POINTING LEAFaSOUTH EAST POINTING LEAFaTURNED NORTH WEST POINTING LEAF
bSOUTH WEST POINTING LEAFbNORTH EAST POINTING LEAFbSOUTH EAST POINTING LEAF
aNORTH WEST POINTING VINE LEAFaSOUTH WEST POINTING VINE LEAFaNORTH EAST POINTING VINE LEAF
aSOUTH EAST POINTING VINE LEAFaHEAVY NORTH WEST POINTING VINE LEAFbSOUTH WEST POINTING VINE LEAF
bNORTH EAST POINTING VINE LEAFbSOUTH EAST POINTING VINE LEAFaNORTH WEST POINTING BUD
aSOUTH WEST POINTING BUDaNORTH EAST POINTING BUDaSOUTH EAST POINTING BUD
aHEAVY NORTH WEST POINTING BUDbSOUTH WEST POINTING BUDbNORTH EAST POINTING BUD
bSOUTH EAST POINTING BUDaHOLLOW QUILT SQUARE ORNAMENTeIN BLACK SQUAREaSOLID QUILT SQUARE ORNAMENT
eIN BLACK SQUAREaLEFTWARDS ROCKETaUPWARDS ROCKETaRIGHTWARDS ROCKETaDOWNWARDS ROCKET
aSCRIPT LIGATURE ET ORNAMENTaHEAVY SCRIPT LIGATURE ET ORNAMENTaLIGATURE OPEN ET ORNAMENT
aHEAVY LIGATURE OPEN ET ORNAMENTbAMPERSAND ORNAMENTaSWASH AMPERSAND ORNAMENT
aSANS-SERIF HEAVY DOUBLE TURNED COMMA QUOTATION MARK ORNAMENTdCOMMA QUOTATION MARK ORNAMENT
cLOW DOUBLE COMMA QUOTATION MARK ORNAMENTaHEAVY INTERROBANG ORNAMENT
aSANS-SERIF INTERROBANG ORNAMENTaHEAVY SANS-SERIF INTERROBANG ORNAMENTaVERY HEAVY SOLIDUS
cREVERSE SOLIDUSaCHECKER BOARDaREVERSE CHECKER BOARDaROCKETaHELICOPTERaSTEAM LOCOMOTIVE
aRAILWAY CARaHIGH-SPEED TRAINcWITH BULLET NOSEaTRAINaMETROaLIGHT RAILaSTATIONaTRAMbCARaBUS
aONCOMING BUSaTROLLEYBUSaBUS STOPaMINIBUSaAMBULANCEaFIRE ENGINEaPOLICE CARaONCOMING POLICE CAR
aTAXIaONCOMING TAXIaAUTOMOBILEaONCOMING AUTOMOBILEaRECREATIONAL VEHICLEaDELIVERY TRUCK
aARTICULATED LORRYaTRACTORaMONORAILaMOUNTAIN RAILWAYaSUSPENSION RAILWAYaMOUNTAIN CABLEWAY
aAERIAL TRAMWAYaSHIPaROWBOATaSPEEDBOATaHORIZONTAL TRAFFIC LIGHTaVERTICAL TRAFFIC LIGHT
aCONSTRUCTION SIGNaPOLICE CARS REVOLVING LIGHTaTRIANGULAR FLAG ON POSTaDOORaNO ENTRY SIGN
aSMOKING SYMBOLaNO SMOKING SYMBOLaPUT LITTER IN ITS PLACE SYMBOLaDO NOT LITTER SYMBOL
aPOTABLE WATER SYMBOLaNON-POTABLE WATER SYMBOLaBICYCLEaNO BICYCLESaBICYCLISTaMOUNTAIN BICYCLIST
aPEDESTRIANaNO PEDESTRIANSaCHILDREN CROSSINGaMENS SYMBOLaWOMENS SYMBOLaRESTROOMaBABY SYMBOLaTOILET
aWATER CLOSETaSHOWERaBATHaBATHTUBaPASSPORT CONTROLaCUSTOMSaBAGGAGE CLAIMaLEFT LUGGAGE
aTRIANGLE WITH ROUNDED CORNERSaPROHIBITED SIGNaCIRCLED INFORMATION SOURCEaBOYS SYMBOLaGIRLS SYMBOL
aCOUCH AND LAMPaSLEEPING ACCOMMODATIONaSHOPPING BAGSaBELLHOP BELLaBEDaPLACE OF WORSHIP
aOCTAGONAL SIGNaSHOPPING TROLLEYaSTUPAaPAGODAaHINDU TEMPLEaHUTaELEVATOR@1F6DCaWIRELESS
aPLAYGROUND SLIDEaWHEELaRING BUOYaHAMMER AND WRENCHaSHIELDaOIL DRUMaMOTORWAYaRAILWAY TRACK
aMOTOR BOATaUP-POINTING MILITARY AIRPLANEbAIRPLANEbSMALL AIRPLANEaSMALL AIRPLANE
aNORTHEAST-POINTING AIRPLANEaAIRPLANE DEPARTUREbARRIVING@1F6F0aSATELLITEaONCOMING FIRE ENGINE
aDIESEL LOCOMOTIVEaPASSENGER SHIPaSCOOTERaMOTOR SCOOTERaCANOEaSLEDaFLYING SAUCERaSKATEBOARD
aAUTO RICKSHAWaPICKUP TRUCKaROLLER SKATE@1F700aALCHEMICAL SYMBOL FOR QUINTESSENCEdAIRdFIREdEARTH
dWATERdAQUAFORTISdAQUA REGIAeREGIA-2eVITAEeVITAE-2dVINEGARdVINEGAR-2dVINEGAR-3dSULFUR
dPHILOSOPHERS SULFURdBLACK SULFURdMERCURY SUBLIMATEeSUBLIMATE-2eSUBLIMATE-3dCINNABARdSALTdNITRE
dVITRIOLdVITRIOL-2dROCK SALTeSALT-2dGOLDdSILVERdIRON OREeORE-2dCROCUS OF IRONdREGULUS OF IRON
dCOPPER OREdIRON-COPPER OREdSUBLIMATE OF COPPERdCROCUS OF COPPERfCOPPER-2dCOPPER ANTIMONIATE
dSALT OF COPPER ANTIMONIATEdSUBLIMATE OF SALT OF COPPERdVERDIGRISdTIN OREdLEAD OREdANTIMONY ORE
dSUBLIMATE OF ANTIMONYdSALT OF ANTIMONYdSUBLIMATE OF SALT OF ANTIMONYdVINEGAR OF ANTIMONY
dREGULUS OF ANTIMONYfANTIMONY-2dREGULUSdREGULUS-2dREGULUS-3dREGULUS-4dALKALIdALKALI-2dMARCASITE
dSAL-AMMONIACdARSENICdREALGARdREALGAR-2dAURIPIGMENTdBISMUTH OREdTARTARdTARTAR-2dQUICK LIMEdBORAX
dBORAX-2dBORAX-3dALUMdOILdSPIRITdTINCTUREdGUMdWAXdPOWDERdCALXdTUTTYdCAPUT MORTUUMdSCEPTER OF JOVE
dCADUCEUSdTRIDENTdSTARRED TRIDENTdLODESTONEdSOAPdURINEdHORSE DUNGdASHESdPOT ASHESdBRICK
dPOWDERED BRICKdAMALGAMdSTRATUM SUPER STRATUMfSTRATUM-2dSUBLIMATIONdPRECIPITATEdDISTILLdDISSOLVE
dDISSOLVE-2dPURIFYdPUTREFACTIONdCRUCIBLEdCRUCIBLE-2dCRUCIBLE-3dCRUCIBLE-4dCRUCIBLE-5dALEMBIC
dBATH OF MARYfVAPOURSdRETORTdHOURdNIGHTdDAY-NIGHTdMONTHdHALF DRAMeOUNCEaLOT OF FORTUNEaOCCULTATION
aLUNAR ECLIPSE@1F77BaHAUMEAaMAKEMAKEaGONGGONGaQUAOARaORCUS
aBLACK LEFT-POINTING ISOSCELES RIGHT TRIANGLEbUP-POINTING ISOSCELES RIGHT TRIANGLE
bRIGHT-POINTING ISOSCELES RIGHT TRIANGLEbDOWN-POINTING ISOSCELES RIGHT TRIANGLE
bSLIGHTLY SMALL CIRCLEaMEDIUM BOLD WHITE CIRCLEaBOLD WHITE CIRCLEaHEAVY WHITE CIRCLE
aVERY HEAVY WHITE CIRCLEaEXTREMELY HEAVY WHITE CIRCLEaWHITE CIRCLE CONTAINING BLACK SMALL CIRCLE
aROUND TARGETaBLACK TINY SQUAREbSLIGHTLY SMALL SQUAREaLIGHT WHITE SQUAREaMEDIUM WHITE SQUARE
aBOLD WHITE SQUAREaHEAVY WHITE SQUAREaVERY HEAVY WHITE SQUAREaEXTREMELY HEAVY WHITE SQUARE
aWHITE SQUARE CONTAINING BLACK VERY SMALL SQUAREeMEDIUM SQUAREaSQUARE TARGETaBLACK TINY DIAMOND
bVERY SMALL DIAMONDbMEDIUM SMALL DIAMONDaWHITE DIAMOND CONTAINING BLACK VERY SMALL DIAMOND
eMEDIUM DIAMONDaDIAMOND TARGETaBLACK TINY LOZENGEbVERY SMALL LOZENGEbMEDIUM SMALL LOZENGE
aWHITE LOZENGE CONTAINING BLACK SMALL LOZENGEaTHIN GREEK CROSSaLIGHT GREEK CROSS
aMEDIUM GREEK CROSSaBOLD GREEK CROSSaVERY BOLD GREEK CROSSbHEAVY GREEK CROSS
aEXTREMELY HEAVY GREEK CROSSaTHIN SALTIREaLIGHT SALTIREaMEDIUM SALTIREaBOLD SALTIREaHEAVY SALTIRE
aVERY HEAVY SALTIREaEXTREMELY HEAVY SALTIREaLIGHT FIVE SPOKED ASTERISKaMEDIUM FIVE SPOKED ASTERISK
aBOLD FIVE SPOKED ASTERISKaHEAVY FIVE SPOKED ASTERISKaVERY HEAVY FIVE SPOKED ASTERISK
aEXTREMELY HEAVY FIVE SPOKED ASTERISKaLIGHT SIX SPOKED ASTERISKaMEDIUM SIX SPOKED ASTERISK
aBOLD SIX SPOKED ASTERISKaHEAVY SIX SPOKED ASTERISKaVERY HEAVY SIX SPOKED ASTERISK
aEXTREMELY HEAVY SIX SPOKED ASTERISKaLIGHT EIGHT SPOKED ASTERISKaMEDIUM EIGHT SPOKED ASTERISK
aBOLD EIGHT SPOKED ASTERISKaHEAVY EIGHT SPOKED ASTERISKaVERY HEAVY EIGHT SPOKED ASTERISK
aLIGHT THREE POINTED BLACK STARaMEDIUM THREE POINTED BLACK STARaTHREE POINTED BLACK STAR
aMEDIUM THREE POINTED PINWHEEL STARaLIGHT FOUR POINTED BLACK STARaMEDIUM FOUR POINTED BLACK STAR
aFOUR POINTED BLACK STARaMEDIUM FOUR POINTED PINWHEEL STAR
aREVERSE LIGHT FOUR POINTED PINWHEEL STARaLIGHT FIVE POINTED BLACK STAR
aHEAVY FIVE POINTED BLACK STARaMEDIUM SIX POINTED BLACK STARaHEAVY SIX POINTED BLACK STAR
aSIX POINTED PINWHEEL STARaMEDIUM EIGHT POINTED BLACK STARaHEAVY EIGHT POINTED BLACK STAR
aVERY HEAVY EIGHT POINTED BLACK STARaHEAVY EIGHT POINTED PINWHEEL STAR
aLIGHT TWELVE POINTED BLACK STARaHEAVY TWELVE POINTED BLACK STARdPINWHEEL STARaCIRCLED TRIANGLE
aNEGATIVE CIRCLED TRIANGLEaCIRCLED SQUAREaNEGATIVE CIRCLED SQUAREaNINE POINTED WHITE STAR
@1F7E0aLARGE ORANGE CIRCLEbYELLOW CIRCLEbGREEN CIRCLEbPURPLE CIRCLEbBROWN CIRCLEbRED SQUARE
bBLUE SQUAREbORANGE SQUAREbYELLOW SQUAREbGREEN SQUAREbPURPLE SQUAREbBROWN SQUARE
@1F7F0aHEAVY EQUALS SIGN@1F800aLEFTWARDS ARROW WITH SMALL TRIANGLE ARROWHEAD
aUPWARDS ARROW WITH SMALL TRIANGLE ARROWHEADaRIGHTWARDS ARROW WITH SMALL TRIANGLE ARROWHEAD
aDOWNWARDS ARROW WITH SMALL TRIANGLE ARROWHEADaLEFTWARDS ARROW WITH MEDIUM TRIANGLE ARROWHEAD
aUPWARDS ARROW WITH MEDIUM TRIANGLE ARROWHEADaRIGHTWARDS ARROW WITH MEDIUM TRIANGLE ARROWHEAD
aDOWNWARDS ARROW WITH MEDIUM TRIANGLE ARROWHEADaLEFTWARDS ARROW WITH LARGE TRIANGLE ARROWHEAD
aUPWARDS ARROW WITH LARGE TRIANGLE ARROWHEADaRIGHTWARDS ARROW WITH LARGE TRIANGLE ARROWHEAD
aDOWNWARDS ARROW WITH LARGE TRIANGLE ARROWHEAD
@1F810aLEFTWARDS ARROW WITH SMALL EQUILATERAL ARROWHEAD
aUPWARDS ARROW WITH SMALL EQUILATERAL ARROWHEADaRIGHTWARDS ARROW WITH SMALL EQUILATERAL ARROWHEAD
aDOWNWARDS ARROW WITH SMALL EQUILATERAL ARROWHEADaLEFTWARDS ARROW WITH EQUILATERAL ARROWHEAD
aUPWARDS ARROW WITH EQUILATERAL ARROWHEADaRIGHTWARDS ARROW WITH EQUILATERAL ARROWHEAD
aDOWNWARDS ARROW WITH EQUILATERAL ARROWHEADaHEAVY LEFTWARDS ARROW WITH EQUILATERAL ARROWHEAD
bUPWARDS ARROW WITH EQUILATERAL ARROWHEADbRIGHTWARDS ARROW WITH EQUILATERAL ARROWHEAD
bDOWNWARDS ARROW WITH EQUILATERAL ARROWHEADbLEFTWARDS ARROW WITH LARGE EQUILATERAL ARROWHEAD
bUPWARDS ARROW WITH LARGE EQUILATERAL ARROWHEADbRIGHTWARDS ARROW WITH LARGE EQUILATERAL ARROWHEAD
bDOWNWARDS ARROW WITH LARGE EQUILATERAL ARROWHEAD
aLEFTWARDS TRIANGLE-HEADED ARROW WITH NARROW SHAFTaUPWARDS TRIANGLE-HEADED ARROW WITH NARROW SHAFT
aRIGHTWARDS TRIANGLE-HEADED ARROW WITH NARROW SHAFT
aDOWNWARDS TRIANGLE-HEADED ARROW WITH NARROW SHAFT
aLEFTWARDS TRIANGLE-HEADED ARROW WITH MEDIUM SHAFTaUPWARDS TRIANGLE-HEADED ARROW WITH MEDIUM SHAFT
aRIGHTWARDS TRIANGLE-HEADED ARROW WITH MEDIUM SHAFT
aDOWNWARDS TRIANGLE-HEADED ARROW WITH MEDIUM SHAFTaLEFTWARDS TRIANGLE-HEADED ARROW WITH BOLD SHAFT
aUPWARDS TRIANGLE-HEADED ARROW WITH BOLD SHAFTaRIGHTWARDS TRIANGLE-HEADED ARROW WITH BOLD SHAFT
aDOWNWARDS TRIANGLE-HEADED ARROW WITH BOLD SHAFTaLEFTWARDS TRIANGLE-HEADED ARROW WITH HEAVY SHAFT
aUPWARDS TRIANGLE-HEADED ARROW WITH HEAVY SHAFTaRIGHTWARDS TRIANGLE-HEADED ARROW WITH HEAVY SHAFT
aDOWNWARDS TRIANGLE-HEADED ARROW WITH HEAVY SHAFT
aLEFTWARDS TRIANGLE-HEADED ARROW WITH VERY HEAVY SHAFT
aUPWARDS TRIANGLE-HEADED ARROW WITH VERY HEAVY SHAFT
aRIGHTWARDS TRIANGLE-HEADED ARROW WITH VERY HEAVY SHAFT
aDOWNWARDS TRIANGLE-HEADED ARROW WITH VERY HEAVY SHAFTaLEFTWARDS FINGER-POST ARROW
aUPWARDS FINGER-POST ARROWaRIGHTWARDS FINGER-POST ARROWaDOWNWARDS FINGER-POST ARROW
aLEFTWARDS SQUARED ARROWaUPWARDS SQUARED ARROWaRIGHTWARDS SQUARED ARROWaDOWNWARDS SQUARED ARROW
aLEFTWARDS COMPRESSED ARROWaUPWARDS COMPRESSED ARROWaRIGHTWARDS COMPRESSED ARROW
aDOWNWARDS COMPRESSED ARROWaLEFTWARDS HEAVY COMPRESSED ARROWaUPWARDS HEAVY COMPRESSED ARROW
aRIGHTWARDS HEAVY COMPRESSED ARROWaDOWNWARDS HEAVY COMPRESSED ARROWaLEFTWARDS HEAVY ARROW
aUPWARDS HEAVY ARROWaRIGHTWARDS HEAVY ARROWaDOWNWARDS HEAVY ARROW@1F850aLEFTWARDS SANS-SERIF ARROW
aUPWARDS SANS-SERIF ARROWaRIGHTWARDS SANS-SERIF ARROWaDOWNWARDS SANS-SERIF ARROW
aNORTH WEST SANS-SERIF ARROWbEAST SANS-SERIF ARROWaSOUTH EAST SANS-SERIF ARROW
bWEST SANS-SERIF ARROWaLEFT RIGHT SANS-SERIF ARROWaUP DOWN SANS-SERIF ARROW
@1F860aWIDE-HEADED LEFTWARDS LIGHT BARB ARROWbUPWARDS LIGHT BARB ARROWbRIGHTWARDS LIGHT BARB ARROW
bDOWNWARDS LIGHT BARB ARROWbNORTH WEST LIGHT BARB ARROWcEAST LIGHT BARB ARROW
bSOUTH EAST LIGHT BARB ARROWcWEST LIGHT BARB ARROWbLEFTWARDS BARB ARROWbUPWARDS BARB ARROW
bRIGHTWARDS BARB ARROWbDOWNWARDS BARB ARROWbNORTH WEST BARB ARROWcEAST BARB ARROW
bSOUTH EAST BARB ARROWcWEST BARB ARROWbLEFTWARDS MEDIUM BARB ARROWbUPWARDS MEDIUM BARB ARROW
bRIGHTWARDS MEDIUM BARB ARROWbDOWNWARDS MEDIUM BARB ARROWbNORTH WEST MEDIUM BARB ARROW
cEAST MEDIUM BARB ARROWbSOUTH EAST MEDIUM BARB ARROWcWEST MEDIUM BARB ARROW
bLEFTWARDS HEAVY BARB ARROWbUPWARDS HEAVY BARB ARROWbRIGHTWARDS HEAVY BARB ARROW
bDOWNWARDS HEAVY BARB ARROWbNORTH WEST HEAVY BARB ARROWcEAST HEAVY BARB ARROW
bSOUTH EAST HEAVY BARB ARROWcWEST HEAVY BARB ARROWbLEFTWARDS VERY HEAVY BARB ARROW
bUPWARDS VERY HEAVY BARB ARROWbRIGHTWARDS VERY HEAVY BARB ARROWbDOWNWARDS VERY HEAVY BARB ARROW
bNORTH WEST VERY HEAVY BARB ARROWcEAST VERY HEAVY BARB ARROWbSOUTH EAST VERY HEAVY BARB ARROW
cWEST VERY HEAVY BARB ARROW@1F890aLEFTWARDS TRIANGLE ARROWHEADaUPWARDS TRIANGLE ARROWHEAD
aRIGHTWARDS TRIANGLE ARROWHEADaDOWNWARDS TRIANGLE ARROWHEAD
aLEFTWARDS WHITE ARROW WITHIN TRIANGLE ARROWHEADaUPWARDS WHITE ARROW WITHIN TRIANGLE ARROWHEAD
aRIGHTWARDS WHITE ARROW WITHIN TRIANGLE ARROWHEADaDOWNWARDS WHITE ARROW WITHIN TRIANGLE ARROWHEAD
aLEFTWARDS ARROW WITH NOTCHED TAILaUPWARDS ARROW WITH NOTCHED TAIL
aRIGHTWARDS ARROW WITH NOTCHED TAILaDOWNWARDS ARROW WITH NOTCHED TAILaHEAVY ARROW SHAFT WIDTH ONE
eTWO THIRDSeONE HALFfTHIRDaLEFTWARDS BOTTOM-SHADED WHITE ARROW
aRIGHTWARDS BOTTOM SHADED WHITE ARROWaLEFTWARDS TOP SHADED WHITE ARROW
aRIGHTWARDS TOP SHADED WHITE ARROWaLEFTWARDS LEFT-SHADED WHITE ARROW
aRIGHTWARDS RIGHT-SHADED WHITE ARROWaLEFTWARDS RIGHT-SHADED WHITE ARROW
aRIGHTWARDS LEFT-SHADED WHITE ARROWaLEFTWARDS BACK-TILTED SHADOWED WHITE ARROW
aRIGHTWARDS BACK-TILTED SHADOWED WHITE ARROWaLEFTWARDS FRONT-TILTED SHADOWED WHITE ARROW
aRIGHTWARDS FRONT-TILTED SHADOWED WHITE ARROWaWHITE ARROW SHAFT WIDTH ONEeTWO THIRDS
@1F8B0aARROW POINTING UPWARDS THEN NORTH WESTcRIGHTWARDS THEN CURVING SOUTH WEST
@1F900aCIRCLED CROSS FORMEE WITH FOUR DOTSeTWO DOTScFORMEEaLEFT HALF CIRCLE WITH FOUR DOTS
eTHREE DOTSeTWO DOTSeDOTcCIRCLEaDOWNWARD FACING HOOKcNOTCHED HOOKcHOOK WITH DOT
cNOTCHED HOOK WITH DOTaPINCHED FINGERSaWHITE HEARTaBROWN HEARTaPINCHING HANDaZIPPER-MOUTH FACE
aMONEY-MOUTH FACEaFACE WITH THERMOMETERaNERD FACEaTHINKING FACEaFACE WITH HEAD-BANDAGEaROBOT FACE
aHUGGING FACEaSIGN OF THE HORNSaCALL ME HANDaRAISED BACK OF HANDaLEFT-FACING FIST
aRIGHT-FACING FISTaHANDSHAKEaHAND WITH INDEX AND MIDDLE FINGERS CROSSEDaI LOVE YOU HAND SIGN
aFACE WITH COWBOY HATaCLOWN FACEaNAUSEATED FACEaROLLING ON THE FLOOR LAUGHINGaDROOLING FACE
aLYING FACEaFACE PALMaSNEEZING FACEaFACE WITH ONE EYEBROW RAISEDaGRINNING FACE WITH STAR EYES
dONE LARGE AND ONE SMALL EYEaFACE WITH FINGER COVERING CLOSED LIPS
aSERIOUS FACE WITH SYMBOLS COVERING MOUTHaSMILING FACE WITH SMILING EYES AND HAND COVERING MOUTH
aFACE WITH OPEN MOUTH VOMITINGaSHOCKED FACE WITH EXPLODING HEADaPREGNANT WOMANaBREAST-FEEDING
aPALMS UP TOGETHERaSELFIEaPRINCEaMAN IN TUXEDOaMOTHER CHRISTMASaSHRUGaPERSON DOING CARTWHEEL
aJUGGLINGaFENCERaMODERN PENTATHLONaWRESTLERSaWATER POLOaHANDBALLaDIVING MASKaWILTED FLOWER
aDRUM WITH DRUMSTICKSaCLINKING GLASSESaTUMBLER GLASSaSPOONaGOAL NETaRIFLEaFIRST PLACE MEDAL
aSECOND PLACE MEDALaTHIRD PLACE MEDALaBOXING GLOVEaMARTIAL ARTS UNIFORMaCURLING STONE
aLACROSSE STICK AND BALLaSOFTBALLaFLYING DISCaCROISSANTaAVOCADOaCUCUMBERaBACONaPOTATOaCARROT
aBAGUETTE BREADaGREEN SALADaSHALLOW PAN OF FOODaSTUFFED FLATBREADaEGGaGLASS OF MILKaPEANUTS
aKIWIFRUITaPANCAKESaDUMPLINGaFORTUNE COOKIEaTAKEOUT BOXaCHOPSTICKSaBOWL WITH SPOONaCUP WITH STRAW
aCOCONUTaBROCCOLIaPIEaPRETZELaCUT OF MEATaSANDWICHaCANNED FOODaLEAFY GREENaMANGOaMOON CAKEaBAGEL
aSMILING FACE WITH SMILING EYES AND THREE HEARTSaYAWNING FACEaSMILING FACE WITH TEAR
aFACE WITH PARTY HORN AND PARTY HATcUNEVEN EYES AND WAVY MOUTHaOVERHEATED FACEaFREEZING FACEaNINJA
aDISGUISED FACEaFACE HOLDING BACK TEARSbWITH PLEADING EYESaSARIaLAB COATaGOGGLESaHIKING BOOT
aFLAT SHOEaCRABaLION FACEaSCORPIONaTURKEYaUNICORN FACEaEAGLEaDUCKaBATaSHARKaOWLaFOX FACEaBUTTERFLY
aDEERaGORILLAaLIZARDaRHINOCEROSaSHRIMPaSQUIDaGIRAFFE FACEaZEBRA FACEaHEDGEHOGaSAUROPODaT-REX
aCRICKETaKANGAROOaLLAMAaPEACOCKaHIPPOPOTAMUSaPARROTaRACCOONaLOBSTERaMOSQUITOaMICROBEaBADGERaSWAN
aMAMMOTHaDODOaSLOTHaOTTERaORANGUTANaSKUNKaFLAMINGOaOYSTERaBEAVERaBISONaSEALaGUIDE DOGaPROBING CANE
aEMOJI COMPONENT RED HAIRcCURLY HAIRcBALDcWHITE HAIRaBONEaLEGaFOOTaTOOTHaSUPERHEROaSUPERVILLAIN
aSAFETY VESTaEAR WITH HEARING AIDaMOTORIZED WHEELCHAIRaMANUAL WHEELCHAIRaMECHANICAL ARMbLEG
aCHEESE WEDGEaCUPCAKEaSALT SHAKERaBEVERAGE BOXaGARLICaONIONaFALAFELaWAFFLEaBUTTERaMATE DRINK
aICE CUBEaBUBBLE TEAaTROLLaSTANDING PERSONaKNEELING PERSONaDEAF PERSONaFACE WITH MONOCLEaADULT
aCHILDaOLDER ADULTaBEARDED PERSONaPERSON WITH HEADSCARFbIN STEAMY ROOMbCLIMBINGbIN LOTUS POSITION
aMAGEaFAIRYaVAMPIREaMERPERSONaELFaGENIEaZOMBIEaBRAINaORANGE HEARTaBILLED CAPaSCARFaGLOVESaCOAT
aSOCKSaRED GIFT ENVELOPEaFIRECRACKERaJIGSAW PUZZLE PIECEaTEST TUBEaPETRI DISHaDNA DOUBLE HELIX
aCOMPASSaABACUSaFIRE EXTINGUISHERaTOOLBOXaBRICKaMAGNETaLUGGAGEaLOTION BOTTLEaSPOOL OF THREAD
aBALL OF YARNaSAFETY PINaTEDDY BEARaBROOMaBASKETaROLL OF PAPERaBAR OF SOAPaSPONGEaRECEIPT
aNAZAR AMULETaNEUTRAL CHESS KINGcQUEENcROOKcBISHOPcKNIGHTcPAWN
aWHITE CHESS KNIGHT ROTATED FORTY-FIVE DEGREESaBLACK CHESS KNIGHT ROTATED FORTY-FIVE DEGREES
aNEUTRAL CHESS KNIGHT ROTATED FORTY-FIVE DEGREESaWHITE CHESS KING ROTATED NINETY DEGREES
cQUEEN ROTATED NINETY DEGREEScROOK ROTATED NINETY DEGREEScBISHOP ROTATED NINETY DEGREES
cKNIGHT ROTATED NINETY DEGREEScPAWN ROTATED NINETY DEGREESaBLACK CHESS KING ROTATED NINETY DEGREES
cQUEEN ROTATED NINETY DEGREEScROOK ROTATED NINETY DEGREEScBISHOP ROTATED NINETY DEGREES
cKNIGHT ROTATED NINETY DEGREEScPAWN ROTATED NINETY DEGREES
aNEUTRAL CHESS KING ROTATED NINETY DEGREEScQUEEN ROTATED NINETY DEGREES
cROOK ROTATED NINETY DEGREEScBISHOP ROTATED NINETY DEGREEScKNIGHT ROTATED NINETY DEGREES
cPAWN ROTATED NINETY DEGREESaWHITE CHESS KNIGHT ROTATED ONE HUNDRED THIRTY-FIVE DEGREES
aBLACK CHESS KNIGHT ROTATED ONE HUNDRED THIRTY-FIVE DEGREES
aNEUTRAL CHESS KNIGHT ROTATED ONE HUNDRED THIRTY-FIVE DEGREESaWHITE CHESS TURNED KINGdQUEENdROOK
dBISHOPdKNIGHTdPAWNaBLACK CHESS TURNED KINGdQUEENdROOKdBISHOPdKNIGHTdPAWN
aNEUTRAL CHESS TURNED KINGdQUEENdROOKdBISHOPdKNIGHTdPAWN
aWHITE CHESS KNIGHT ROTATED TWO HUNDRED TWENTY-FIVE DEGREES
aBLACK CHESS KNIGHT ROTATED TWO HUNDRED TWENTY-FIVE DEGREES
aNEUTRAL CHESS KNIGHT ROTATED TWO HUNDRED TWENTY-FIVE DEGREES
aWHITE CHESS KING ROTATED TWO HUNDRED SEVENTY DEGREEScQUEEN ROTATED TWO HUNDRED SEVENTY DEGREES
cROOK ROTATED TWO HUNDRED SEVENTY DEGREEScBISHOP ROTATED TWO HUNDRED SEVENTY DEGREES
cKNIGHT ROTATED TWO HUNDRED SEVENTY DEGREEScPAWN ROTATED TWO HUNDRED SEVENTY DEGREES
aBLACK CHESS KING ROTATED TWO HUNDRED SEVENTY DEGREEScQUEEN ROTATED TWO HUNDRED SEVENTY DEGREES
cROOK ROTATED TWO HUNDRED SEVENTY DEGREEScBISHOP ROTATED TWO HUNDRED SEVENTY DEGREES
cKNIGHT ROTATED TWO HUNDRED SEVENTY DEGREEScPAWN ROTATED TWO HUNDRED SEVENTY DEGREES
aNEUTRAL CHESS KING ROTATED TWO HUNDRED SEVENTY DEGREEScQUEEN ROTATED TWO HUNDRED SEVENTY DEGREES
cROOK ROTATED TWO HUNDRED SEVENTY DEGREEScBISHOP ROTATED TWO HUNDRED SEVENTY DEGREES
cKNIGHT ROTATED TWO HUNDRED SEVENTY DEGREEScPAWN ROTATED TWO HUNDRED SEVENTY DEGREES
aWHITE CHESS KNIGHT ROTATED THREE HUNDRED FIFTEEN DEGREES
aBLACK CHESS KNIGHT ROTATED THREE HUNDRED FIFTEEN DEGREES
aNEUTRAL CHESS KNIGHT ROTATED THREE HUNDRED FIFTEEN DEGREESaWHITE CHESS EQUIHOPPER
aBLACK CHESS EQUIHOPPERaNEUTRAL CHESS EQUIHOPPERaWHITE CHESS EQUIHOPPER ROTATED NINETY DEGREES
aBLACK CHESS EQUIHOPPER ROTATED NINETY DEGREESaNEUTRAL CHESS EQUIHOPPER ROTATED NINETY DEGREES
aWHITE CHESS KNIGHT-QUEENcKNIGHT-ROOKcKNIGHT-BISHOPaBLACK CHESS KNIGHT-QUEENcKNIGHT-ROOK
cKNIGHT-BISHOP@1FA60aXIANGQI RED GENERALcMANDARINcELEPHANTcHORSEcCHARIOTcCANNONcSOLDIER
bBLACK GENERALcMANDARINcELEPHANTcHORSEcCHARIOTcCANNONcSOLDIER@1FA70aBALLET SHOES
aONE-PIECE SWIMSUITaBRIEFSaSHORTSaTHONG SANDALaLIGHT BLUE HEARTaGREY HEARTaPINK HEART
aDROP OF BLOODaADHESIVE BANDAGEaSTETHOSCOPEaX-RAYaCRUTCH@1FA80aYO-YOaKITEaPARACHUTEaBOOMERANG
aMAGIC WANDaPINATAaNESTING DOLLSaMARACASaFLUTE@1FA90aRINGED PLANETaCHAIRaRAZORaAXEaDIYA LAMPaBANJO
aMILITARY HELMETaACCORDIONaLONG DRUMaCOINaCARPENTRY SAWaSCREWDRIVERaLADDERaHOOKaMIRRORaWINDOW
aPLUNGERaSEWING NEEDLEaKNOTaBUCKETaMOUSE TRAPaTOOTHBRUSHaHEADSTONEaPLACARDaROCKaMIRROR BALL
aIDENTIFICATION CARDaLOW BATTERYaHAMSAaFOLDING HAND FANaHAIR PICKaKHANDAaFLYaWORMaBEETLEaCOCKROACH
aPOTTED PLANTaWOODaFEATHERaLOTUSaCORALaEMPTY NESTaNEST WITH EGGSaHYACINTHaJELLYFISHaWING
@1FABFaGOOSEaANATOMICAL HEARTaLUNGSaPEOPLE HUGGINGaPREGNANT MANbPERSONaPERSON WITH CROWN
@1FACEaMOOSEaDONKEYaBLUEBERRIESaBELL PEPPERaOLIVEaFLATBREADaTAMALEaFONDUEaTEAPOTaPOURING LIQUID
aBEANSaJARaGINGER ROOTaPEA POD@1FAE0aMELTING FACEaSALUTING FACE
aFACE WITH OPEN EYES AND HAND OVER MOUTHcPEEKING EYEcDIAGONAL MOUTHaDOTTED LINE FACEaBITING LIP
aBUBBLESaSHAKING FACE@1FAF0aHAND WITH INDEX FINGER AND THUMB CROSSEDaRIGHTWARDS HAND
aLEFTWARDS HANDaPALM DOWN HANDbUP HANDaINDEX POINTING AT THE VIEWERaHEART HANDS
aLEFTWARDS PUSHING HANDaRIGHTWARDS PUSHING HAND@1FB00aBLOCK SEXTANT-1bSEXTANT-2bSEXTANT-12
bSEXTANT-3bSEXTANT-13bSEXTANT-23bSEXTANT-123bSEXTANT-4bSEXTANT-14bSEXTANT-24bSEXTANT-124
bSEXTANT-34bSEXTANT-134bSEXTANT-234bSEXTANT-1234bSEXTANT-5bSEXTANT-15bSEXTANT-25bSEXTANT-125
bSEXTANT-35bSEXTANT-235bSEXTANT-1235bSEXTANT-45bSEXTANT-145bSEXTANT-245bSEXTANT-1245bSEXTANT-345
bSEXTANT-1345bSEXTANT-2345bSEXTANT-12345bSEXTANT-6bSEXTANT-16bSEXTANT-26bSEXTANT-126bSEXTANT-36
bSEXTANT-136bSEXTANT-236bSEXTANT-1236bSEXTANT-46bSEXTANT-146bSEXTANT-1246bSEXTANT-346bSEXTANT-1346
bSEXTANT-2346bSEXTANT-12346bSEXTANT-56bSEXTANT-156bSEXTANT-256bSEXTANT-1256bSEXTANT-356
bSEXTANT-1356bSEXTANT-2356bSEXTANT-12356bSEXTANT-456bSEXTANT-1456bSEXTANT-2456bSEXTANT-12456
bSEXTANT-3456bSEXTANT-13456bSEXTANT-23456
aLOWER LEFT BLOCK DIAGONAL LOWER MIDDLE LEFT TO LOWER CENTREjRIGHT
eUPPER MIDDLE LEFT TO LOWER CENTREjRIGHTfLEFT TO LOWER CENTRE
bRIGHT BLOCK DIAGONAL UPPER MIDDLE LEFT TO UPPER CENTREjRIGHTeLOWER MIDDLE LEFT TO UPPER CENTRE
jRIGHTfLEFT TO UPPER CENTREfMIDDLE LEFT TO UPPER MIDDLE RIGHTfCENTRE TO LOWER MIDDLE RIGHT
fLEFT TO LOWER MIDDLE RIGHTfCENTRE TO UPPER MIDDLE RIGHTfLEFT TO UPPER MIDDLE RIGHT
fCENTRE TO UPPER RIGHTbLEFT BLOCK DIAGONAL UPPER CENTRE TO UPPER MIDDLE RIGHT
fLEFT TO UPPER MIDDLE RIGHTfCENTRE TO LOWER MIDDLE RIGHTfLEFT TO LOWER MIDDLE RIGHT
fCENTRE TO LOWER RIGHTfMIDDLE LEFT TO LOWER MIDDLE RIGHT
aUPPER RIGHT BLOCK DIAGONAL LOWER MIDDLE LEFT TO LOWER CENTREjRIGHT
eUPPER MIDDLE LEFT TO LOWER CENTREjRIGHTfLEFT TO LOWER CENTRE
bLEFT BLOCK DIAGONAL UPPER MIDDLE LEFT TO UPPER CENTREjRIGHTeLOWER MIDDLE LEFT TO UPPER CENTRE
jRIGHTfLEFT TO UPPER CENTREfMIDDLE LEFT TO UPPER MIDDLE RIGHTfCENTRE TO LOWER MIDDLE RIGHT
fLEFT TO LOWER MIDDLE RIGHTfCENTRE TO UPPER MIDDLE RIGHTfLEFT TO UPPER MIDDLE RIGHT
fCENTRE TO UPPER RIGHTbRIGHT BLOCK DIAGONAL UPPER CENTRE TO UPPER MIDDLE RIGHT
fLEFT TO UPPER MIDDLE RIGHTfCENTRE TO LOWER MIDDLE RIGHTfLEFT TO LOWER MIDDLE RIGHT
fCENTRE TO LOWER RIGHTfMIDDLE LEFT TO LOWER MIDDLE RIGHT
bAND RIGHT AND LOWER TRIANGULAR THREE QUARTERS BLOCK
aLEFT AND LOWER AND RIGHT TRIANGULAR THREE QUARTERS BLOCK
aUPPER AND LEFT AND LOWER TRIANGULAR THREE QUARTERS BLOCK
aLEFT AND UPPER AND RIGHT TRIANGULAR THREE QUARTERS BLOCKbTRIANGULAR ONE QUARTER BLOCK
aUPPER TRIANGULAR ONE QUARTER BLOCKaRIGHT TRIANGULAR ONE QUARTER BLOCK
aLOWER TRIANGULAR ONE QUARTER BLOCKaVERTICAL ONE EIGHTH BLOCK-2dBLOCK-3dBLOCK-4dBLOCK-5dBLOCK-6
dBLOCK-7aHORIZONTAL ONE EIGHTH BLOCK-2dBLOCK-3dBLOCK-4dBLOCK-5dBLOCK-6dBLOCK-7
aLEFT AND LOWER ONE EIGHTH BLOCKcUPPER ONE EIGHTH BLOCKaRIGHT AND UPPER ONE EIGHTH BLOCK
cLOWER ONE EIGHTH BLOCKaUPPER AND LOWER ONE EIGHTH BLOCKaHORIZONTAL ONE EIGHTH BLOCK-1358
aUPPER ONE QUARTER BLOCKbTHREE EIGHTHS BLOCKbFIVE EIGHTHS BLOCKbTHREE QUARTERS BLOCK
bSEVEN EIGHTHS BLOCKaRIGHT ONE QUARTER BLOCKbTHREE EIGHTHS BLOCKbFIVE EIGHTHS BLOCK
bTHREE QUARTERS BLOCKbSEVEN EIGHTHS BLOCKaLEFT HALF MEDIUM SHADEaRIGHT HALF MEDIUM SHADE
aUPPER HALF MEDIUM SHADEaLOWER HALF MEDIUM SHADEaINVERSE MEDIUM SHADE
aUPPER HALF BLOCK AND LOWER HALF INVERSE MEDIUM SHADEcINVERSE MEDIUM SHADE AND LOWER HALF BLOCK
@1FB94aLEFT HALF INVERSE MEDIUM SHADE AND RIGHT HALF BLOCKaCHECKER BOARD FILL
aINVERSE CHECKER BOARD FILLaHEAVY HORIZONTAL FILLaUPPER LEFT TO LOWER RIGHT FILL
bRIGHT TO LOWER LEFT FILLbAND LOWER TRIANGULAR HALF BLOCKaLEFT AND RIGHT TRIANGULAR HALF BLOCK
aUPPER LEFT TRIANGULAR MEDIUM SHADEbRIGHT TRIANGULAR MEDIUM SHADE
aLOWER RIGHT TRIANGULAR MEDIUM SHADEbLEFT TRIANGULAR MEDIUM SHADE
aBOX DRAWINGS LIGHT DIAGONAL UPPER CENTRE TO MIDDLE LEFTiRIGHTeMIDDLE LEFT TO LOWER CENTRE
fRIGHT TO LOWER CENTREeUPPER CENTRE TO MIDDLE LEFT TO LOWER CENTREiRIGHT TO LOWER CENTRE
eMIDDLE LEFT TO LOWER CENTRE TO MIDDLE RIGHThUPPER CENTRE TO MIDDLE RIGHT
eUPPER CENTRE TO MIDDLE LEFT AND MIDDLE RIGHT TO LOWER CENTRE
iRIGHT AND MIDDLE LEFT TO LOWER CENTREjTO LOWER CENTRE TO MIDDLE LEFT
iLEFT TO LOWER CENTRE TO MIDDLE RIGHTeMIDDLE LEFT TO UPPER CENTRE TO MIDDLE RIGHT TO LOWER CENTRE
fRIGHT TO UPPER CENTRE TO MIDDLE LEFT TO LOWER CENTREeDIAMONDdHORIZONTAL WITH VERTICAL STROKE
aARROWHEAD-SHAPED POINTERaINVERSE CHECK MARKaLEFT HALF RUNNING MANaRIGHT HALF RUNNING MAN
aINVERSE DOWNWARDS ARROW WITH TIP LEFTWARDSaLEFTWARDS ARROW AND UPPER AND LOWER ONE EIGHTH BLOCK
aRIGHTWARDS ARROW AND UPPER AND LOWER ONE EIGHTH BLOCKaDOWNWARDS ARROW AND RIGHT ONE EIGHTH BLOCK
aUPWARDS ARROW AND RIGHT ONE EIGHTH BLOCKaLEFT HALF FOLDERaRIGHT HALF FOLDERaVOIDED GREEK CROSS
aRIGHT OPEN SQUARED DOTaNEGATIVE DIAGONAL CROSScMIDDLE RIGHT TO LOWER CENTREcDIAMOND
aWHITE HEAVY SALTIRE WITH ROUNDED CORNERSaLEFT THIRD WHITE RIGHT POINTING INDEX
aMIDDLE THIRD WHITE RIGHT POINTING INDEXaRIGHT THIRD WHITE RIGHT POINTING INDEX
aNEGATIVE SQUARED QUESTION MARKaSTICK FIGUREcWITH ARMS RAISEDcLEANING LEFTdRIGHTcWITH DRESS
aWHITE UP-POINTING CHEVRON@1FBF0aSEGMENTED DIGIT ZEROcONEcTWOcTHREEcFOURcFIVEcSIXcSEVENcEIGHTcNINE
@E0001aLANGUAGE TAG@E0020aTAG SPACEbEXCLAMATION MARKbQUOTATION MARKbNUMBER SIGNbDOLLAR SIGN
bPERCENT SIGNbAMPERSANDbAPOSTROPHEbLEFT PARENTHESISbRIGHT PARENTHESISbASTERISKbPLUS SIGNbCOMMA
bHYPHEN-MINUSbFULL STOPbSOLIDUSbDIGIT ZEROcONEcTWOcTHREEcFOURcFIVEcSIXcSEVENcEIGHTcNINEbCOLON
bSEMICOLONbLESS-THAN SIGNbEQUALS SIGNbGREATER-THAN SIGNbQUESTION MARKbCOMMERCIAL AT
bLATIN CAPITAL LETTER AeBeCeDeEeFeGeHeIeJeKeLeMeNeOePeQeReSeTeUeVeWeXeYeZbLEFT SQUARE BRACKET
bREVERSE SOLIDUSbRIGHT SQUARE BRACKETbCIRCUMFLEX ACCENTbLOW LINEbGRAVE ACCENTbLATIN SMALL LETTER A
eBeCeDeEeFeGeHeIeJeKeLeMeNeOePeQeReSeTeUeVeWeXeYeZbLEFT CURLY BRACKETbVERTICAL LINE
bRIGHT CURLY BRACKETbTILDEaCANCEL TAG"

end SceneRender.Script.CharacterName
